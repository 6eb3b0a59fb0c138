import Ndef.Reader

/-!
# TOML strings

Strings are basic, with escapes, or literal, and each kind has a form on one line and
a form on several lines.  In the latter, line ends are read as newlines, the first
one is dropped, a backslash at the end of a line drops the white space after it, and
up to two quotes may stand in a row, also before the closing three.
-/

namespace Ndef.Toml

/-- Whether the character is white space inside a line. -/
def isBlank (c : Char) : Bool :=
  c = ' ' || c = '\t'

/-- The text without its leading white space. -/
def skipBlank (s : List Char) : List Char :=
  s.dropWhile isBlank

/-- Whether the character may stand in comments and strings. -/
def isText (c : Char) : Bool :=
  c = '\t' || (0x20 ≤ c.toNat && c.toNat ≠ 0x7F)

/-- The text after the line end at the front, if there is one. -/
def newline? : List Char → Option (List Char)
  | '\n' :: s => some s
  | '\r' :: '\n' :: s => some s
  | _ => none

/-- The text without the white space and the line ends at the front. -/
def skipBlankLines : List Char → List Char
  | ' ' :: s => skipBlankLines s
  | '\t' :: s => skipBlankLines s
  | '\n' :: s => skipBlankLines s
  | '\r' :: '\n' :: s => skipBlankLines s
  | s => s

/-! ### Escapes -/

/-- The number that a hexadecimal digit stands for. -/
def digit? (c : Char) : Option Nat :=
  if '0' ≤ c ∧ c ≤ '9' then some (c.toNat - 0x30)
  else if 'A' ≤ c ∧ c ≤ 'F' then some (c.toNat - 0x37)
  else if 'a' ≤ c ∧ c ≤ 'f' then some (c.toNat - 0x57)
  else none

/-- The character whose code point the first `n` digits write, and the rest. -/
def codePoint? (n : Nat) (s : List Char) : Option (Char × List Char) := do
  let digits ← (s.take n).mapM digit?
  let code := digits.foldl (fun code d => 16 * code + d) 0
  if digits.length = n ∧ code.isValidChar then some (Char.ofNat code, s.drop n) else none

/-- The characters that one letter behind a backslash stands for. -/
def escapes : List (Char × Char) :=
  [('b', '\x08'), ('t', '\t'), ('n', '\n'), ('f', '\x0c'), ('r', '\r'), ('"', '"'), ('\\', '\\')]

/-- The character that stands behind a backslash, and the rest. -/
def escape? : List Char → Option (Char × List Char)
  | [] => none
  | c :: s =>
    match escapes.lookup c with
    | some meant => some (meant, s)
    | none =>
      if c = 'u' then codePoint? 4 s
      else if c = 'U' then codePoint? 8 s
      else none

/-! ### Pieces of strings -/

/-- A character of a basic string. -/
def basicChar? : List Char → Option (Char × List Char)
  | [] => none
  | c :: s =>
    if c = '\\' then escape? s
    else if c ≠ '"' ∧ isText c then some (c, s)
    else none

/-- A character of a literal string. -/
def literalChar? : List Char → Option (Char × List Char)
  | [] => none
  | c :: s => if c ≠ '\'' ∧ isText c then some (c, s) else none

/-- The text after a line end that a backslash makes invisible. -/
def continuation? (s : List Char) : Option (List Char) :=
  (newline? (skipBlank s)).map skipBlankLines

/-- One or two quotes, but not three. -/
def quotes? (quote : Char) (s : List Char) : Option (List Char × List Char) :=
  let run := s.takeWhile (· = quote)
  if 0 < run.length ∧ run.length < 3 then some (run, s.drop run.length) else none

/-- A piece of a string on several lines: quotes, a line end or a character. -/
def linesPiece? (quote : Char) : List Char → Option (List Char × List Char)
  | [] => none
  | c :: s =>
    if c = quote then quotes? quote (c :: s)
    else match newline? (c :: s) with
      | some rest => some (['\n'], rest)
      | none => if isText c then some ([c], s) else none

/-- A piece of a basic string on several lines. -/
def basicPiece? : List Char → Option (List Char × List Char)
  | [] => none
  | c :: s =>
    if c = '\\' then
      match escape? s with
      | some (escaped, rest) => some ([escaped], rest)
      | none => (continuation? s).map ([], ·)
    else linesPiece? '"' (c :: s)

/-! ### Pieces are not empty -/

theorem length_skipBlank_le (s : List Char) :
  (skipBlank s).length ≤ s.length
  :=
  (List.dropWhile_suffix isBlank).length_le

theorem length_skipBlankLines_le (s : List Char) :
  (skipBlankLines s).length ≤ s.length
  := by
  fun_induction skipBlankLines s with
  | case1 s ih | case2 s ih | case3 s ih | case4 s ih =>
    simp only [List.length_cons]
    omega
  | case5 => exact Nat.le_refl _

theorem length_lt_of_newline? {s rest : List Char} (h : newline? s = some rest) :
  rest.length < s.length
  := by
  unfold newline? at h
  split at h <;> cases h <;> simp only [List.length_cons] <;> omega

theorem length_le_of_codePoint? {n : Nat} {s rest : List Char} {c : Char}
    (h : codePoint? n s = some (c, rest)) :
  rest.length ≤ s.length
  := by
  simp only [codePoint?, Option.bind_eq_bind, Option.bind_eq_some_iff] at h
  obtain ⟨digits, -, h⟩ := h
  split at h
  · cases h
    simp
  · cases h

theorem length_lt_of_escape? {s rest : List Char} {c : Char} (h : escape? s = some (c, rest)) :
  rest.length < s.length
  := by
  unfold escape? at h
  split at h
  · cases h
  · split at h
    · cases h
      simp
    · split at h
      · exact Nat.lt_succ_of_le (length_le_of_codePoint? h)
      · split at h
        · exact Nat.lt_succ_of_le (length_le_of_codePoint? h)
        · cases h

theorem length_lt_of_continuation? {s rest : List Char} (h : continuation? s = some rest) :
  rest.length < s.length
  := by
  obtain ⟨t, ht, rfl⟩ := Option.map_eq_some_iff.mp h
  have h₁ := length_lt_of_newline? ht
  have h₂ := length_skipBlank_le s
  have h₃ := length_skipBlankLines_le t
  omega

theorem length_lt_of_quotes? {quote : Char} {s rest piece : List Char}
    (h : quotes? quote s = some (piece, rest)) :
  rest.length < s.length
  := by
  simp only [quotes?] at h
  split at h
  · next hrun =>
    cases h
    have hle := (List.takeWhile_prefix (l := s) (· = quote)).length_le
    rw [List.length_drop]
    omega
  · cases h

theorem length_lt_of_linesPiece? {quote : Char} {s rest piece : List Char}
    (h : linesPiece? quote s = some (piece, rest)) :
  rest.length < s.length
  := by
  unfold linesPiece? at h
  split at h
  · cases h
  · split at h
    · exact length_lt_of_quotes? h
    · split at h
      · next hnewline =>
        cases h
        exact length_lt_of_newline? hnewline
      · split at h
        · cases h
          simp
        · cases h

/-- The reader of the characters of a basic string. -/
def basicChar : Reader Char Char where
  read := basicChar?
  shorter := by
    intro s c rest h
    unfold basicChar? at h
    split at h
    · cases h
    · split at h
      · have := length_lt_of_escape? h
        rw [List.length_cons]
        omega
      · split at h
        · cases h
          simp
        · cases h

/-- The reader of the characters of a literal string. -/
def literalChar : Reader Char Char where
  read := literalChar?
  shorter := by
    intro s c rest h
    unfold literalChar? at h
    split at h
    · cases h
    · split at h
      · cases h
        simp
      · cases h

/-- The reader of the pieces of a basic string on several lines. -/
def basicPiece : Reader Char (List Char) where
  read := basicPiece?
  shorter := by
    intro s piece rest h
    unfold basicPiece? at h
    split at h
    · cases h
    · split at h
      · split at h
        · next hescape =>
          cases h
          have := length_lt_of_escape? hescape
          rw [List.length_cons]
          omega
        · obtain ⟨rest', hrest, heq⟩ := Option.map_eq_some_iff.mp h
          cases heq
          have := length_lt_of_continuation? hrest
          rw [List.length_cons]
          omega
      · exact length_lt_of_linesPiece? h

/-- The reader of the pieces of a literal string on several lines. -/
def literalPiece : Reader Char (List Char) where
  read := linesPiece? '\''
  shorter := length_lt_of_linesPiece?

/-! ### Strings -/

/-- The string that the quote closes, and the rest. -/
def line? (quote : Char) (chars : Reader Char Char) (s : List Char) :
    Option (String × List Char) :=
  match chars.all s with
  | (content, c :: rest) => if c = quote then some (String.ofList content, rest) else none
  | (_, []) => none

/-- The string that three quotes close, and the rest.  Quotes before these three
belong to the string. -/
def lines? (quote : Char) (pieces : Reader Char (List Char)) (s : List Char) :
    Option (String × List Char) :=
  let (content, rest) := pieces.all ((newline? s).getD s)
  let run := rest.takeWhile (· = quote)
  if 3 ≤ run.length ∧ run.length ≤ 5 then
    some (String.ofList (content.flatten ++ run.drop 3), rest.drop run.length)
  else none

/-- A string on one line, and the rest. -/
def lineString? : List Char → Option (String × List Char)
  | '"' :: s => line? '"' basicChar s
  | '\'' :: s => line? '\'' literalChar s
  | _ => none

/-- A string in any form, and the rest. -/
def string? : List Char → Option (String × List Char)
  | '"' :: '"' :: '"' :: s => lines? '"' basicPiece s
  | '\'' :: '\'' :: '\'' :: s => lines? '\'' literalPiece s
  | s => lineString? s

theorem length_lt_of_line? {quote : Char} {chars : Reader Char Char} {s rest : List Char}
    {content : String} (h : line? quote chars s = some (content, rest)) :
  rest.length < s.length
  := by
  have hle := chars.length_all_snd_le s
  unfold line? at h
  split at h
  · next heq =>
    rw [heq, List.length_cons] at hle
    split at h
    · cases h
      omega
    · cases h
  · cases h

theorem length_lt_of_lineString? {s rest : List Char} {content : String}
    (h : lineString? s = some (content, rest)) :
  rest.length < s.length
  := by
  unfold lineString? at h
  split at h
  · exact Nat.lt_succ_of_lt (length_lt_of_line? h)
  · exact Nat.lt_succ_of_lt (length_lt_of_line? h)
  · cases h

end Ndef.Toml
