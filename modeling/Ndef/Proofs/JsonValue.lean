import Mathlib.Tactic.Common
import Ndef.JsonText

/-!
# The values of JSON texts

A JSON text is written of one value only, whatever strings are in it
(`Json.text_injective`).  This holds of a text in the middle of a longer one as well: where
the text of a value ends can be told from the text (`Json.delimited_text`), if only a number
is not followed by a digit.
-/

namespace Ndef

section Delimited

variable {σ α : Type}

/-- What is written of `a` shows where it ends: it and something behind it are the same as
what is written of a value and something behind that only if both the values and what stands
behind them are the same.  What may stand behind is what `ends` holds of. -/
def Delimited (write : α → List σ) (ends : List σ → Prop) (a : α) : Prop :=
  ∀ b s t, ends s → ends t → write a ++ s = write b ++ t → a = b ∧ s = t

/-- What is read back shows where it ends. -/
theorem Delimited.of_read {write : α → List σ} {ends : List σ → Prop}
    (read : List σ → Option (α × List σ))
    (h : ∀ a s, ends s → read (write a ++ s) = some (a, s)) (a : α) :
  Delimited write ends a
  := by
  intro b s t hs ht heq
  have hread := h a s hs
  rw [heq, h b t ht] at hread
  injection hread with hread
  injection hread with hb ht
  exact ⟨hb.symm, ht.symm⟩

theorem Delimited.mono {write : α → List σ} {ends ends' : List σ → Prop} {a : α}
    (h : Delimited write ends a) (hends : ∀ s, ends' s → ends s) :
  Delimited write ends' a
  := fun b s t hs ht heq => h b s t (hends s hs) (hends t ht) heq

/-- Items that show where they end, one behind the other, show where they end if a symbol
follows with which no item begins. -/
theorem Delimited.flatMap {write : α → List σ} {ends : List σ → Prop} {stop : σ} {l : List α}
    (hstop : ∀ a, ∃ c rest, write a = c :: rest ∧ c ≠ stop)
    (hends : ∀ (l : List α) s, ends (l.flatMap write ++ stop :: s))
    (h : ∀ a ∈ l, Delimited write ends a) :
  Delimited (fun l => l.flatMap write ++ [stop]) (fun _ => True) l
  := by
  have hne (a : α) (s t : List σ) : write a ++ s ≠ stop :: t := by
    obtain ⟨c, rest, hwrite, hc⟩ := hstop a
    rw [hwrite]
    intro heq
    injection heq with heq
    exact hc heq
  intro m s t _ _ heq
  simp only [List.append_assoc, List.singleton_append] at heq
  -- On the items of one list; those of the other can neither go on nor end before them.
  induction l generalizing m with
  | nil =>
    cases m with
    | nil =>
      injection heq with _ heq
      exact ⟨rfl, heq⟩
    | cons b m =>
      rw [List.flatMap_cons, List.append_assoc] at heq
      exact absurd heq.symm (hne b _ _)
  | cons a l ih =>
    cases m with
    | nil =>
      rw [List.flatMap_cons, List.append_assoc] at heq
      exact absurd heq (hne a _ _)
    | cons b m =>
      rw [List.flatMap_cons, List.flatMap_cons, List.append_assoc, List.append_assoc] at heq
      obtain ⟨rfl, hrest⟩ := h a List.mem_cons_self b _ _ (hends l s) (hends m t) heq
      obtain ⟨rfl, hst⟩ := ih (fun c hc => h c (List.mem_cons_of_mem a hc)) m hrest
      exact ⟨rfl, hst⟩

end Delimited

/-- Lists with a symbol between them are the first one and each further one behind the symbol. -/
theorem flatten_intersperse_cons {α : Type} (sep : α) (x : List α) (xs : List (List α)) :
  ((x :: xs).intersperse [sep]).flatten = x ++ xs.flatMap (sep :: ·)
  := by
  induction xs generalizing x with
  | nil => simp
  | cons y xs ih => simp [ih]

namespace JsonText

/-! ### Strings -/

/-- The value of a digit of an escape. -/
def digitValue (c : Char) : Nat :=
  "0123456789abcdef".toList.idxOf c

/-- The character that the front of a string in quotes stands for, and the rest.  Behind a
backslash, a quote and a backslash stand for themselves. -/
def unescape? : List Char → Option (Char × List Char)
  | '\\' :: 'b' :: s => some ('\x08', s)
  | '\\' :: 'f' :: s => some ('\x0c', s)
  | '\\' :: 'n' :: s => some ('\n', s)
  | '\\' :: 'r' :: s => some ('\r', s)
  | '\\' :: 't' :: s => some ('\t', s)
  | '\\' :: 'u' :: '0' :: '0' :: high :: low :: s =>
    some (Char.ofNat (16 * digitValue high + digitValue low), s)
  | '\\' :: c :: s => some (c, s)
  | c :: s => some (c, s)
  | [] => none

/-- An escaped character is read back, whatever follows. -/
theorem unescape?_escaped (c : Char) (s : List Char) :
  unescape? (escaped c ++ s) = some (c, s)
  := by
  have hcontrol : ∀ n < 0x20,
      16 * digitValue (Nat.digitChar (n / 16)) + digitValue (Nat.digitChar (n % 16)) = n := by
    decide
  rw [escaped]
  split_ifs with _ hbackslash
  iterate 7 · subst c; rfl
  · next hlt =>
    change some (Char.ofNat _, s) = _
    rw [hcontrol c.toNat hlt, Char.ofNat_toNat]
  · simp [unescape?, hbackslash]

/-- No escaped character begins with a quote. -/
theorem exists_escaped_eq_cons (c : Char) :
  ∃ d rest, escaped c = d :: rest ∧ d ≠ '"'
  := by
  rw [escaped]
  split_ifs with hquote
  iterate 8 · exact ⟨_, _, rfl, by decide⟩
  · exact ⟨c, [], rfl, hquote⟩

/-- A string ends at the first quote that is not escaped. -/
theorem delimited_string (s : String) :
  Delimited string (fun _ => True) s
  := by
  have hescaped (c : Char) : Delimited escaped (fun _ => True) c :=
    .of_read unescape? (fun c s _ => unescape?_escaped c s) c
  intro t x y hx hy heq
  injection heq with _ heq
  obtain ⟨hst, hxy⟩ := Delimited.flatMap exists_escaped_eq_cons (fun _ _ => trivial)
    (fun c _ => hescaped c) t.toList x y hx hy heq
  exact ⟨String.toList_inj.mp hst, hxy⟩

/-! ### Truth values and numbers -/

theorem delimited_bool (b : Bool) :
  Delimited bool (fun _ => True) b
  := by
  rintro c s t - - heq
  cases b <;> cases c <;> simp_all [bool]

/-- No digit comes first, so that a number may stand before it. -/
def Ends (s : List Char) : Prop :=
  ∀ c ∈ s.head?, c.isDigit = false

theorem number_eq_toDigits (n : Nat) :
  number n = Nat.toDigits 10 n
  := Nat.toList_repr

theorem isDigit_of_mem_number {n : Nat} {c : Char} (h : c ∈ number n) :
  c.isDigit = true
  := by
  rw [number_eq_toDigits] at h
  exact Nat.isDigit_of_mem_toDigits (by decide) (by decide) h

theorem number_ne_nil (n : Nat) :
  number n ≠ []
  := by
  rw [number_eq_toDigits]
  apply Nat.toDigits_ne_nil

/-- The number is what its digits write. -/
theorem ofDigitChars_number (n : Nat) :
  Nat.ofDigitChars 10 (number n) 0 = n
  := by
  rw [number_eq_toDigits]
  exact Nat.ofDigitChars_toDigits (by decide) (by decide)

/-- A number ends where no digit follows. -/
theorem delimited_number (n : Nat) :
  Delimited number Ends n
  := by
  have htake (n : Nat) {s : List Char} (hs : Ends s) :
      (number n ++ s).takeWhile Char.isDigit = number n := by
    rw [List.takeWhile_append_of_pos fun c => isDigit_of_mem_number]
    cases s with
    | nil => simp
    | cons c s => simp [hs c rfl]
  intro m s t hs ht heq
  have hnumber : number n = number m := by
    rw [← htake n hs, heq, htake m ht]
  rw [hnumber, List.append_cancel_left_eq] at heq
  have hvalue : n = m := by
    rw [← ofDigitChars_number n, hnumber, ofDigitChars_number]
  exact ⟨hvalue, heq⟩

end JsonText

/-! ### Values -/

/-- A value that JSON text is written of. -/
inductive Json where
  | null
  | bool (b : Bool)
  | number (n : Nat)
  | string (s : String)
  /-- The members stand in the order in which they are given. -/
  | object (members : List (String × Json))

namespace Json

open JsonText (Ends)

mutual

/-- The text of a value. -/
def text : Json → List Char
  | null => "null".toList
  | bool b => JsonText.bool b
  | number n => JsonText.number n
  | string s => JsonText.string s
  | object members => JsonText.object (memberTexts members)

/-- The texts of members of an object. -/
def memberTexts : List (String × Json) → List (List Char)
  | [] => []
  | (key, v) :: members => JsonText.member key v.text :: memberTexts members

end

/-- The value of something that may be absent, and then is null. -/
def orNull {α : Type} (value : α → Json) : Option α → Json
  | some a => value a
  | none => null

theorem text_orNull {α : Type} {value : α → Json} {write : α → List Char}
    (h : ∀ a, (value a).text = write a) (a? : Option α) :
  (orNull value a?).text = JsonText.orNull write a?
  := by
  cases a? with
  | none => rfl
  | some a => exact h a

theorem memberTexts_eq_map (members : List (String × Json)) :
  memberTexts members = members.map fun m => JsonText.member m.1 m.2.text
  := by
  induction members with
  | nil => rfl
  | cons m members ih => rw [memberTexts, ih, List.map_cons]

/-- What holds of all values but objects, and of an object if it holds of what its members
are, holds of every value. -/
theorem induction {motive : Json → Prop} (null : motive null) (bool : ∀ b, motive (bool b))
    (number : ∀ n, motive (number n)) (string : ∀ s, motive (string s))
    (object : ∀ members, (∀ m ∈ members, motive m.2) → motive (object members)) (v : Json) :
  motive v
  := by
  cases v with
  | null => exact null
  | bool b => exact bool b
  | number n => exact number n
  | string s => exact string s
  | object members =>
    apply object
    intro m hm
    have hlt := List.sizeOf_lt_of_mem hm
    exact induction null bool number string object m.2
termination_by sizeOf v
decreasing_by
  obtain ⟨key, w⟩ := m
  simp only [Prod.mk.sizeOf_spec, Json.object.sizeOf_spec] at hlt ⊢
  omega

/-- The kinds of values. -/
inductive Kind where
  | null
  | bool
  | number
  | string
  | object
deriving DecidableEq

/-- The kind of a value. -/
def kind : Json → Kind
  | null => .null
  | bool _ => .bool
  | number _ => .number
  | string _ => .string
  | object _ => .object

/-- The kind of the values whose text begins with the character. -/
def kindOf (c : Char) : Kind :=
  if c = '"' then .string
  else if c = '\x7b' then .object
  else if c = 'n' then .null
  else if c.isDigit then .number
  else .bool

/-- The first character of a text says what kind of value it is of. -/
theorem exists_text_eq_cons (v : Json) :
  ∃ c rest, v.text = c :: rest ∧ kindOf c = v.kind
  := by
  cases v with
  | null => exact ⟨_, _, rfl, by decide⟩
  | bool b => cases b <;> exact ⟨_, _, rfl, by decide⟩
  | number n =>
    obtain ⟨c, rest, hnumber⟩ := List.exists_cons_of_ne_nil (JsonText.number_ne_nil n)
    have hdigit : c.isDigit = true := by
      apply JsonText.isDigit_of_mem_number (n := n)
      rw [hnumber]
      exact List.mem_cons_self
    refine ⟨c, rest, hnumber, ?_⟩
    have hne (d : Char) (hd : d.isDigit = false) : c ≠ d := by
      rintro rfl
      rw [hd] at hdigit
      cases hdigit
    rw [kindOf, if_neg (hne _ (by decide)), if_neg (hne _ (by decide)), if_neg (hne _ (by decide)),
      if_pos hdigit, kind]
  | string s => exact ⟨_, _, rfl, rfl⟩
  | object members => exact ⟨_, _, rfl, rfl⟩

/-- Texts that agree as far as the shorter one goes are of values of one kind. -/
theorem kind_eq_of_text_append_eq {v w : Json} {s t : List Char}
    (h : v.text ++ s = w.text ++ t) :
  v.kind = w.kind
  := by
  obtain ⟨c, rest, hv, hc⟩ := exists_text_eq_cons v
  obtain ⟨d, rest', hw, hd⟩ := exists_text_eq_cons w
  rw [hv, hw] at h
  injection h with h
  rw [← hc, ← hd, h]

/-! ### Objects -/

/-- A member with the comma before it. -/
def furtherText (m : String × Json) : List Char :=
  ',' :: JsonText.member m.1 m.2.text

theorem text_object_nil :
  (object []).text = ['\x7b', '\x7d']
  := rfl

theorem text_object_cons (m : String × Json) (members : List (String × Json)) :
  (object (m :: members)).text
    = '\x7b' :: (JsonText.member m.1 m.2.text ++ (members.flatMap furtherText ++ ['\x7d']))
  := by
  rw [text, JsonText.object, memberTexts_eq_map, List.map_cons, flatten_intersperse_cons,
    List.flatMap_map, List.cons_append, List.append_assoc]
  rfl

/-- A member ends where its value ends. -/
theorem delimited_member {m : String × Json} (h : Delimited text Ends m.2) :
  Delimited (fun m : String × Json => JsonText.member m.1 m.2.text) Ends m
  := by
  rintro ⟨key, w⟩ s t hs ht heq
  simp only [JsonText.member, List.append_assoc] at heq
  obtain ⟨hkey, heq⟩ := JsonText.delimited_string m.1 key _ _ trivial trivial heq
  injection heq with _ heq
  obtain ⟨hvalue, hst⟩ := h w s t hs ht heq
  exact ⟨Prod.ext hkey hvalue, hst⟩

/-- Behind a member stands a comma or the end of the object. -/
theorem ends_flatMap_furtherText (members : List (String × Json)) (s : List Char) :
  Ends (members.flatMap furtherText ++ '\x7d' :: s)
  := by
  cases members with
  | nil =>
    rintro c ⟨⟩
    decide
  | cons m members =>
    rintro c ⟨⟩
    decide

/-- The members behind the first one end where the object ends. -/
theorem delimited_furtherText {members : List (String × Json)}
    (h : ∀ m ∈ members, Delimited text Ends m.2) :
  Delimited (fun members => members.flatMap furtherText ++ ['\x7d']) (fun _ => True) members
  := by
  refine Delimited.flatMap ?_ ends_flatMap_furtherText ?_
  · intro m
    exact ⟨',', _, rfl, by decide⟩
  · intro m hm n s t hs ht heq
    injection heq with _ heq
    apply delimited_member (h m hm) n s t hs ht heq

/-- An object ends at its brace. -/
theorem delimited_object {members : List (String × Json)}
    (h : ∀ m ∈ members, Delimited text Ends m.2) :
  Delimited (fun members => (object members).text) Ends members
  := by
  intro others s t _ _ heq
  cases members with
  | nil =>
    cases others with
    | nil => exact ⟨rfl, List.append_cancel_left heq⟩
    | cons n others =>
      simp [text_object_cons, text_object_nil, JsonText.member, JsonText.string] at heq
  | cons m members =>
    cases others with
    | nil => simp [text_object_cons, text_object_nil, JsonText.member, JsonText.string] at heq
    | cons n others =>
      simp only [text_object_cons, List.cons_append, List.append_assoc, List.nil_append] at heq
      injection heq with _ heq
      obtain ⟨rfl, hrest⟩ := delimited_member (h m List.mem_cons_self) n _ _
        (ends_flatMap_furtherText members s) (ends_flatMap_furtherText others t) heq
      have hfurther := delimited_furtherText fun m' hm => h m' (List.mem_cons_of_mem m hm)
      obtain ⟨rfl, hst⟩ := hfurther others s t trivial trivial (by simpa using hrest)
      exact ⟨rfl, hst⟩

/-! ### All values -/

/-- Texts of different kinds differ, so only those of values that are made alike have to be
told from one another. -/
theorem delimited_of_kind {α : Type} {make : α → Json} {a : α}
    (hkind : ∀ w : Json, (make a).kind = w.kind → ∃ b, make b = w)
    (h : Delimited (fun b => (make b).text) Ends a) :
  Delimited text Ends (make a)
  := by
  intro w s t hs ht heq
  obtain ⟨b, rfl⟩ := hkind w (kind_eq_of_text_append_eq heq)
  obtain ⟨rfl, hst⟩ := h b s t hs ht heq
  exact ⟨rfl, hst⟩

/-- The text of a value shows where it ends, unless a digit follows. -/
theorem delimited_text (v : Json) :
  Delimited text Ends v
  := by
  -- The other value is of the same kind, since the texts begin alike.
  induction v using induction with
  | null =>
    intro w s t _ _ heq
    have hkind := kind_eq_of_text_append_eq heq
    cases w with
    | null => exact ⟨rfl, List.append_cancel_left heq⟩
    | _ => cases hkind
  | bool b =>
    apply delimited_of_kind
    · intro w hw
      cases w with
      | bool c => exact ⟨c, rfl⟩
      | _ => cases hw
    · exact (JsonText.delimited_bool b).mono fun _ _ => trivial
  | number n =>
    apply delimited_of_kind
    · intro w hw
      cases w with
      | number m => exact ⟨m, rfl⟩
      | _ => cases hw
    · exact JsonText.delimited_number n
  | string u =>
    apply delimited_of_kind
    · intro w hw
      cases w with
      | string u' => exact ⟨u', rfl⟩
      | _ => cases hw
    · exact (JsonText.delimited_string u).mono fun _ _ => trivial
  | object members ih =>
    apply delimited_of_kind
    · intro w hw
      cases w with
      | object others => exact ⟨others, rfl⟩
      | _ => cases hw
    · exact delimited_object ih

/-- A text is written of one value only. -/
theorem text_injective {v w : Json} (h : v.text = w.text) :
  v = w
  := by
  have hnil : Ends [] := by
    rintro c ⟨⟩
  rw [← List.append_nil v.text, ← List.append_nil w.text] at h
  exact (delimited_text v w [] [] hnil hnil h).1

end Json

end Ndef
