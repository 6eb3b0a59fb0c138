import Mathlib.Data.List.Basic
import Ndef.Report

/-!
# Lines of reports

JSON text has no control characters, whatever the strings in it are: they are escaped.  So the
report of a record is one line (`Report.printable_line`).
-/

namespace Ndef

namespace JsonText

/-- None of the characters is below U+0020. -/
def Printable (text : List Char) : Prop :=
  ∀ c ∈ text, 0x20 ≤ c.toNat

instance (text : List Char) : Decidable (Printable text) :=
  List.decidableBAll (fun c : Char => 0x20 ≤ c.toNat) text

namespace Printable

theorem nil :
  Printable []
  := by
  rintro c ⟨⟩

theorem cons {c : Char} {text : List Char} (hc : 0x20 ≤ c.toNat) (h : Printable text) :
  Printable (c :: text)
  := List.forall_mem_cons.mpr ⟨hc, h⟩

theorem append {text others : List Char} (h : Printable text) (hothers : Printable others) :
  Printable (text ++ others)
  := List.forall_mem_append.mpr ⟨h, hothers⟩

theorem flatten_intersperse {sep : List Char} (hsep : Printable sep) {texts : List (List Char)}
    (h : ∀ text ∈ texts, Printable text) :
  Printable (texts.intersperse sep).flatten
  := by
  induction texts with
  | nil => exact nil
  | cons text texts ih =>
    rw [List.forall_mem_cons] at h
    cases texts with
    | nil => simpa using h.1
    | cons next texts =>
      rw [List.intersperse_cons_cons, List.flatten_cons, List.flatten_cons]
      exact h.1.append (hsep.append (ih h.2))

end Printable

theorem printable_escaped (c : Char) :
  Printable (escaped c)
  := by
  have hhex : ∀ n < 16, 0x20 ≤ (Nat.digitChar n).toNat := by decide
  rw [escaped]
  split_ifs with _ _ _ _ _ _ _ hlt
  iterate 7 · decide
  · have hhigh := hhex (c.toNat / 16) (by omega)
    have hlow := hhex (c.toNat % 16) (by omega)
    simp [Printable, hhigh, hlow]
  · exact Printable.nil.cons (by omega)

theorem printable_string (s : String) :
  Printable (string s)
  := by
  apply Printable.cons (by decide)
  apply Printable.append
  · intro d hd
    obtain ⟨c, -, hd⟩ := List.mem_flatMap.mp hd
    apply printable_escaped c d hd
  · apply Printable.cons (by decide) Printable.nil

theorem printable_bool (b : Bool) :
  Printable (bool b)
  := by
  cases b <;> decide

theorem printable_number (n : Nat) :
  Printable (number n)
  := by
  intro c hc
  change c ∈ n.repr.toList at hc
  rw [Nat.toList_repr] at hc
  have hdigit := Nat.isDigit_of_mem_toDigits (by decide) (by decide) hc
  simp only [Char.isDigit, Bool.and_eq_true, decide_eq_true_eq] at hdigit
  have hzero : 0x30 ≤ c.toNat := hdigit.1
  omega

theorem printable_orNull {α : Type} {text : α → List Char} (h : ∀ a, Printable (text a))
    (a? : Option α) :
  Printable (orNull text a?)
  := by
  cases a? with
  | none => simp [Printable, orNull]
  | some a => apply h

theorem printable_member (key : String) {value : List Char} (h : Printable value) :
  Printable (member key value)
  := (printable_string key).append (h.cons (by decide))

theorem printable_object {members : List (List Char)} (h : ∀ m ∈ members, Printable m) :
  Printable (object members)
  := by
  have hcomma : Printable [','] := Printable.nil.cons (by decide)
  have hbrace : Printable ['}'] := Printable.nil.cons (by decide)
  exact ((hcomma.flatten_intersperse h).append hbrace).cons (by decide)

end JsonText

namespace Report

open JsonText

theorem printable_fieldMembers (r : Record) :
  ∀ m ∈ fieldMembers r, Printable m
  := by
  intro m hm
  simp only [fieldMembers, List.mem_append, List.mem_cons, List.not_mem_nil, or_false,
    Option.mem_toList, Option.map_eq_some_iff] at hm
  rcases hm with ((rfl | rfl | rfl | rfl) | ⟨id, -, rfl⟩) | rfl
  · exact printable_member _ (printable_string _)
  · exact printable_member _ (printable_bool _)
  · exact printable_member _ (printable_bool _)
  · exact printable_member _ (printable_string _)
  · exact printable_member _ (printable_string _)
  · exact printable_member _ (printable_string _)

theorem printable_icon (f : Frame) :
  Printable (icon f)
  := by
  apply printable_object
  intro m hm
  rcases List.mem_append.mp hm with hm | hm
  · apply printable_fieldMembers _ m hm
  · rw [List.mem_singleton.mp hm]
    exact printable_member _ (printable_string _)

theorem printable_contentMembers (c : Content) :
  ∀ m ∈ contentMembers c, Printable m
  := by
  have hstring (key s : String) : Printable (member key (string s)) :=
    printable_member key (printable_string s)
  have horNull {α : Type} (key : String) {text : α → List Char} (h : ∀ a, Printable (text a))
      (a? : Option α) : Printable (member key (orNull text a?)) :=
    printable_member key (printable_orNull h a?)
  cases c with
  | generic => simp [contentMembers, kindMember, hstring]
  | uri address => simp [contentMembers, kindMember, hstring]
  | text t => simp [contentMembers, kindMember, hstring]
  | smartPoster p =>
    simp [contentMembers, kindMember, hstring, horNull, printable_string, printable_number,
      printable_icon]

/-- The report of a record is one line: it has no control characters. -/
theorem printable_line (r : Record) :
  Printable (line r)
  := by
  apply printable_object
  intro m hm
  rcases List.mem_append.mp hm with hm | hm
  · apply printable_fieldMembers r m hm
  · apply printable_contentMembers r.content m hm

/-- A message of one record is reported as one line. -/
theorem lines_single (r : Record) :
  lines (.single r) = String.ofList (line r)
  := by
  change String.ofList [line r].flatten = _
  rw [List.flatten_singleton]

end Report

end Ndef
