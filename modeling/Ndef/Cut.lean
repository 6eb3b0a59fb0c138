/-!
# Cutting texts

`cut p s` cuts a text at its first character with the property `p`, which belongs
to neither part.
-/

namespace Ndef

/-- The part before the first character with property `p`, and the part after it, if
there is such a character. -/
def cut (p : Char → Bool) (s : String) : String × Option String :=
  (String.ofList (s.toList.takeWhile (!p ·)),
    match s.toList.dropWhile (!p ·) with
    | [] => none
    | _ :: rest => some (String.ofList rest))

/-- A text is cut at a character with the property if none before it has it. -/
theorem cut_append {p : Char → Bool} {front : List Char} (hfront : ∀ c ∈ front, p c = false)
    {sep : Char} (hsep : p sep = true) (back : List Char) :
  cut p (String.ofList (front ++ sep :: back)) = (String.ofList front, some (String.ofList back))
  := by
  have htake : (front ++ sep :: back).takeWhile (!p ·) = front := by
    rw [List.takeWhile_append_of_pos (by simpa using hfront)]
    simp [hsep]
  have hdrop : (front ++ sep :: back).dropWhile (!p ·) = sep :: back := by
    rw [List.dropWhile_append_of_pos (by simpa using hfront)]
    simp [hsep]
  simp only [cut, String.toList_ofList, htake, hdrop]

/-- A text in which no character has the property stays whole. -/
theorem cut_of_forall_not {p : Char → Bool} {s : List Char} (h : ∀ c ∈ s, p c = false) :
  cut p (String.ofList s) = (String.ofList s, none)
  := by
  have hs : ∀ c ∈ s, (!p c) = true := by simpa using h
  have htake : (s ++ []).takeWhile (!p ·) = s ++ [].takeWhile (!p ·) :=
    List.takeWhile_append_of_pos hs
  have hdrop : (s ++ []).dropWhile (!p ·) = [].dropWhile (!p ·) :=
    List.dropWhile_append_of_pos hs
  rw [List.append_nil] at htake hdrop
  simp [cut, htake, hdrop]

/-- No character of the first part has the property. -/
theorem not_of_mem_cut_fst {p : Char → Bool} {s : String} {c : Char} (h : c ∈ (cut p s).1.toList) :
  p c = false
  := by
  simp only [cut, String.toList_ofList] at h
  have hall := List.all_takeWhile (p := (!p ·)) (l := s.toList)
  simpa using List.all_eq_true.mp hall c h

/-- A text that is cut has a character with the property between its parts. -/
theorem toList_of_cut_eq {p : Char → Bool} {s front back : String}
    (h : cut p s = (front, some back)) :
  ∃ c, p c = true ∧ s.toList = front.toList ++ c :: back.toList
  := by
  obtain ⟨hfront, hback⟩ := Prod.mk.inj h
  split at hback
  · cases hback
  · next c rest hdrop =>
    refine ⟨c, ?_, ?_⟩
    · have hhead := List.head?_dropWhile_not (!p ·) s.toList
      rw [hdrop] at hhead
      simpa using hhead
    · rw [← hfront, ← Option.some.inj hback, String.toList_ofList, String.toList_ofList, ← hdrop,
        List.takeWhile_append_dropWhile]

/-- What stands behind a character with the property is not in the first part. -/
theorem cut_fst_append {p : Char → Bool} {sep : Char} (hsep : p sep = true) (s back : List Char) :
  (cut p (String.ofList (s ++ sep :: back))).1 = (cut p (String.ofList s)).1
  := by
  have htake : (s ++ sep :: back).takeWhile (!p ·) = s.takeWhile (!p ·) := by
    rw [List.takeWhile_append]
    split
    · next hall =>
      have hs : s.takeWhile (!p ·) = s :=
        (List.takeWhile_prefix _).eq_of_length hall
      rw [hs, List.takeWhile_cons_of_neg (by simp [hsep]), List.append_nil]
    · rfl
  simp only [cut, String.toList_ofList, htake]

end Ndef
