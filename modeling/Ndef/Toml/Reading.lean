import Ndef.Toml.Document
import Ndef.Toml.Strings

/-!
# Reading TOML

A document is read line by line.  Only the part of TOML is read in which strings,
empty arrays and tables of at most one entry inside a line can be written; any other
value makes the whole document unreadable, as does anything that is not TOML.
-/

namespace Ndef.Toml

/-! ### Keys -/

/-- Whether the character may stand in a key without quotes. -/
def isBareKeyChar (c : Char) : Bool :=
  c.isAlphanum || c = '_' || c = '-'

/-- A key without dots, and the rest. -/
def simpleKey? (s : List Char) : Option (String × List Char) :=
  let bare := s.takeWhile isBareKeyChar
  if bare = [] then lineString? s else some (String.ofList bare, s.drop bare.length)

/-- A dot with the key behind it, and the rest. -/
def dottedPart? (s : List Char) : Option (String × List Char) :=
  match skipBlank s with
  | '.' :: rest => simpleKey? (skipBlank rest)
  | _ => none

theorem length_lt_of_simpleKey? {s rest : List Char} {key : String}
    (h : simpleKey? s = some (key, rest)) :
  rest.length < s.length
  := by
  simp only [simpleKey?] at h
  split at h
  · exact length_lt_of_lineString? h
  · next hbare =>
    cases h
    have hle := (List.takeWhile_prefix (l := s) isBareKeyChar).length_le
    have hpos := List.length_pos_iff.mpr hbare
    rw [List.length_drop]
    omega

/-- The reader of the dotted parts of a key. -/
def dottedPart : Reader Char String where
  read := dottedPart?
  shorter := by
    intro s key rest h
    have hle := length_skipBlank_le s
    unfold dottedPart? at h
    split at h
    · next dotted heq =>
      rw [heq, List.length_cons] at hle
      have h₁ := length_lt_of_simpleKey? h
      have h₂ := length_skipBlank_le dotted
      omega
    · cases h

/-- A key as the path of its parts, and the rest. -/
def key? (s : List Char) : Option (List String × List Char) := do
  let (first, s) ← simpleKey? s
  let (others, s) := dottedPart.all s
  some (first :: others, s)

/-! ### Values -/

/-- The text without the comment at the front. -/
def skipComment : List Char → List Char
  | '#' :: s => s.dropWhile isText
  | s => s

theorem length_skipComment_le (s : List Char) :
  (skipComment s).length ≤ s.length
  := by
  unfold skipComment
  split
  · next s =>
    exact Nat.le_succ_of_le (List.dropWhile_suffix isText).length_le
  · exact Nat.le_refl _

/-- White space and perhaps a comment, with a line end. -/
def blankLine? (s : List Char) : Option (Unit × List Char) :=
  (newline? (skipComment (skipBlank s))).map ((), ·)

/-- The reader of lines that say nothing. -/
def blankLine : Reader Char Unit where
  read := blankLine?
  shorter := by
    intro s _ rest h
    obtain ⟨t, ht, heq⟩ := Option.map_eq_some_iff.mp h
    cases heq
    have h₁ := length_lt_of_newline? ht
    have h₂ := length_skipComment_le (skipBlank s)
    have h₃ := length_skipBlank_le s
    omega

/-- The rest of an empty array. -/
def arrayEnd? (s : List Char) : Option (List Char) :=
  match skipBlank (blankLine.all s).2 with
  | ']' :: rest => some rest
  | _ => none

/-- The entry of a table inside a line, where the function reads its value, and the
rest after the table. -/
def inlineMember? (value? : List Char → Option (Node × List Char)) (s : List Char) :
    Option (Entries × List Char) := do
  let (key, s) ← simpleKey? s
  match skipBlank s with
  | '=' :: s =>
    let (node, s) ← value? (skipBlank s)
    match skipBlank s with
    | '}' :: rest => some ([(key, node)], rest)
    | _ => none
  | _ => none

/-- A value with tables nested at most to the given depth, and the rest. -/
def value? : (depth : Nat) → List Char → Option (Node × List Char)
  | depth + 1, '{' :: s =>
    match skipBlank s with
    | '}' :: rest => some (.table .inline [], rest)
    | s => (inlineMember? (value? depth) s).map fun (entries, rest) =>
      (.table .inline entries, rest)
  | 0, '{' :: _ => none
  | _, '[' :: s => (arrayEnd? s).map (.emptyArray, ·)
  | _, s => (string? s).map fun (text, rest) => (.string text, rest)

/-! ### Lines -/

/-- The header of a table, and the rest. -/
def header? (s : List Char) : Option (Statement × List Char) := do
  let (path, s) ← key? (skipBlank s)
  match skipBlank s with
  | ']' :: rest => some (.header path, rest)
  | _ => none

/-- A key with its value, and the rest. -/
def assignment? (s : List Char) : Option (Statement × List Char) := do
  let (path, s) ← key? s
  match skipBlank s with
  | '=' :: s =>
    let (node, rest) ← value? s.length (skipBlank s)
    some (.assignment path node, rest)
  | _ => none

/-- A header or an assignment, and the rest. -/
def statement? : List Char → Option (Statement × List Char)
  | '[' :: s => header? s
  | s => assignment? s

/-- The text after the end of a line, which may have a comment; the end of the
document ends its last line. -/
def lineEnd? (s : List Char) : Option (List Char) :=
  match skipComment (skipBlank s) with
  | [] => some []
  | s => newline? s

/-- The statements of a document, of which at most `count` lines are read. -/
def statements? : (count : Nat) → List Char → Option (List Statement)
  | _, [] => some []
  | 0, _ => none
  | count + 1, s =>
    match lineEnd? s with
    | some rest => statements? count rest
    | none => do
      let (statement, s) ← statement? (skipBlank s)
      let rest ← lineEnd? s
      return statement :: (← statements? count rest)

/-- The text without the byte order mark that may begin it. -/
def skipMark : List Char → List Char
  | '\ufeff' :: s => s
  | s => s

/-- The entries of the document that a text writes. -/
def entries? (text : String) : Option Entries := do
  let s := skipMark text.toList
  let statements ← statements? s.length s
  apply [] [] statements

end Ndef.Toml
