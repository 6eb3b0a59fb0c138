import Ndef.Proofs.CommandDecode
import Ndef.Proofs.JsonValue
import Ndef.Proofs.ReportLine

/-!
# What a report says

The line of a record is the JSON text of one value (`Report.text_value`).  So two records have
the same line exactly if the same is reported of them, whatever the strings in them are
(`Report.line_eq_iff`).  What is printed for bytes that are decoded falls apart into the lines
of their records and into nothing else (`Request.lines_of_answer_decode`).
-/

namespace Ndef

/-! ### Names -/

theorem Tnf.name_inj {a b : Tnf} :
  a.name = b.name ↔ a = b
  := by
  cases a <;> cases b <;> decide

theorem TextEncoding.name_inj {a b : TextEncoding} :
  a.name = b.name ↔ a = b
  := by
  rcases a with _ | (_ | _) <;> rcases b with _ | (_ | _) <;> decide

theorem Action.name_inj {a b : Option Action} :
  Action.name a = Action.name b ↔ a = b
  := by
  rcases a with _ | (_ | _ | _) <;> rcases b with _ | (_ | _ | _) <;> decide

theorem Hex.encode_inj {a b : Bytes} :
  Hex.encode a = Hex.encode b ↔ a = b
  := by
  constructor
  · intro h
    have hdecode := congrArg Hex.decode h
    rw [Hex.decode_encode, Hex.decode_encode] at hdecode
    injection hdecode
  · rintro rfl
    rfl

namespace Report

/-! ### What is reported -/

/-- Two records agree in what is reported of their headers and fields. -/
structure SameFields (r s : Record) : Prop where
  tnf : r.tnf = s.tnf
  position : r.position = s.position
  /-- The type is reported as text. -/
  type : Utf8.lossy r.type = Utf8.lossy s.type
  id : r.id = s.id
  payload : r.payload = s.payload

/-- Two posters say the same.  Of icons, the header and the fields are reported. -/
structure SamePoster (p q : SmartPoster) : Prop where
  uri : p.uri = q.uri
  title : p.title = q.title
  mediaType : p.mediaType = q.mediaType
  size : p.size = q.size
  action : p.action = q.action
  icon : Option.Rel (fun f g => SameFields (.uninterpreted f) (.uninterpreted g)) p.icon q.icon

/-- Two contents say the same. -/
inductive SameContent : Content → Content → Prop where
  | generic : SameContent .generic .generic
  | uri (address : String) : SameContent (.uri address) (.uri address)
  | text (t : Text) : SameContent (.text t) (.text t)
  | smartPoster {p q : SmartPoster} (h : SamePoster p q) :
    SameContent (.smartPoster p) (.smartPoster q)

/-! ### The values of reports -/

/-- The members for what the header and the fields of a record say. -/
def fieldValues (r : Record) : List (String × Json) :=
  [("tnf", .string r.tnf.name),
    ("first", .bool r.position.first),
    ("last", .bool r.position.last),
    ("type", .string (Utf8.lossy r.type))]
  ++ (r.id.map fun id => ("id", Json.string (Hex.encode id))).toList
  ++ [("payload", .string (Hex.encode r.payload))]

/-- The value of the report of an icon. -/
def iconValue (f : Frame) : Json :=
  .object (fieldValues (.uninterpreted f) ++ [("kind", .string "generic")])

/-- The members for the content of a record. -/
def contentValues : Content → List (String × Json)
  | .generic => [("kind", .string "generic")]
  | .uri address => [("kind", .string "uri"), ("uri", .string address)]
  | .text t =>
    [("kind", .string "text"),
      ("lang", .string t.language),
      ("text", .string t.content),
      ("encoding", .string t.encoding.name)]
  | .smartPoster p =>
    [("kind", .string "smart_poster"),
      ("uri", .string p.uri),
      ("title", .orNull (.string ·.content) p.title),
      ("lang", .orNull (.string ·.language) p.title),
      ("media_type", .orNull .string p.mediaType),
      ("size", .orNull (.number ·.toNat) p.size),
      ("action", .string (Action.name p.action)),
      ("icon", .orNull iconValue p.icon)]

/-- The value of the line of a record. -/
def value (r : Record) : Json :=
  .object (fieldValues r ++ contentValues r.content)

/-! ### The texts of the values -/

theorem memberTexts_fieldValues (r : Record) :
  Json.memberTexts (fieldValues r) = fieldMembers r
  := by
  rw [Json.memberTexts_eq_map, fieldValues, fieldMembers]
  cases r.id <;> rfl

theorem text_iconValue (f : Frame) :
  (iconValue f).text = icon f
  := by
  have hfields := memberTexts_fieldValues (.uninterpreted f)
  rw [Json.memberTexts_eq_map] at hfields
  rw [iconValue, Json.text, Json.memberTexts_eq_map, List.map_append, hfields]
  rfl

theorem memberTexts_contentValues (c : Content) :
  Json.memberTexts (contentValues c) = contentMembers c
  := by
  cases c with
  | generic => rfl
  | uri address => rfl
  | text t => rfl
  | smartPoster p =>
    simp only [contentValues, contentMembers, Json.memberTexts]
    rw [Json.text_orNull fun _ => rfl, Json.text_orNull fun _ => rfl, Json.text_orNull fun _ => rfl,
      Json.text_orNull fun _ => rfl, Json.text_orNull text_iconValue]
    rfl

/-- The line of a record is the text of its value. -/
theorem text_value (r : Record) :
  (value r).text = line r
  := by
  have hfields := memberTexts_fieldValues r
  have hcontent := memberTexts_contentValues r.content
  rw [Json.memberTexts_eq_map] at hfields hcontent
  rw [value, Json.text, Json.memberTexts_eq_map, List.map_append, hfields, hcontent, line]

/-! ### What the values say -/

/-- An id is told from none by the key of the member that follows. -/
theorem idValue_append_eq_iff {i j : Option Bytes} {v w : Json} {x y : List (String × Json)} :
  (i.map fun id => ("id", Json.string (Hex.encode id))).toList ++ ("payload", v) :: x
      = (j.map fun id => ("id", Json.string (Hex.encode id))).toList ++ ("payload", w) :: y
    ↔ i = j ∧ v = w ∧ x = y
  := by
  cases i <;> cases j <;> simp [Hex.encode_inj]

/-- The members for header and fields are those of the records that agree in them, whatever
members stand behind. -/
theorem fieldValues_append_eq_iff {r s : Record} {x y : List (String × Json)} :
  fieldValues r ++ x = fieldValues s ++ y ↔ SameFields r s ∧ x = y
  := by
  have hposition : r.position.first = s.position.first ∧ r.position.last = s.position.last
      ↔ r.position = s.position := by
    rw [← Position.mk.injEq]
  simp only [fieldValues, List.append_assoc, List.cons_append, List.nil_append, List.cons.injEq,
    Prod.mk.injEq, Json.string.injEq, Json.bool.injEq, true_and, idValue_append_eq_iff,
    Tnf.name_inj, Hex.encode_inj]
  constructor
  · rintro ⟨htnf, hfirst, hlast, htype, hid, hpayload, hrest⟩
    exact ⟨⟨htnf, hposition.mp ⟨hfirst, hlast⟩, htype, hid, hpayload⟩, hrest⟩
  · rintro ⟨⟨htnf, hplace, htype, hid, hpayload⟩, hrest⟩
    obtain ⟨hfirst, hlast⟩ := hposition.mpr hplace
    exact ⟨htnf, hfirst, hlast, htype, hid, hpayload, hrest⟩

/-- Icons have the same report exactly if they agree in their headers and fields. -/
theorem iconValue_eq_iff {f g : Frame} :
  iconValue f = iconValue g ↔ SameFields (.uninterpreted f) (.uninterpreted g)
  := by
  rw [iconValue, iconValue, Json.object.injEq, fieldValues_append_eq_iff]
  exact and_iff_left rfl

/-- The icons of posters have the same report exactly if both posters have an icon and these
have, or neither poster has one. -/
theorem orNull_iconValue_eq_iff {f? g? : Option Frame} :
  Json.orNull iconValue f? = .orNull iconValue g?
    ↔ Option.Rel (fun f g => SameFields (.uninterpreted f) (.uninterpreted g)) f? g?
  := by
  cases f? with
  | none =>
    cases g? with
    | none => simp
    | some g => simp [Json.orNull, iconValue]
  | some f =>
    cases g? with
    | none => simp [Json.orNull, iconValue]
    | some g => rw [Option.rel_some_some, Json.orNull, Json.orNull, iconValue_eq_iff]

/-- The titles of posters are the same if their two members are. -/
theorem title_eq_iff {t u : Option PosterTitle} :
  Json.orNull (.string ·.content) t = .orNull (.string ·.content) u
      ∧ Json.orNull (.string ·.language) t = .orNull (.string ·.language) u
    ↔ t = u
  := by
  cases t with
  | none => cases u <;> simp [Json.orNull]
  | some t =>
    cases u with
    | none => simp [Json.orNull]
    | some u =>
      obtain ⟨content, language⟩ := t
      obtain ⟨content', language'⟩ := u
      simp [Json.orNull]

theorem contentValues_smartPoster_eq_iff {p q : SmartPoster} :
  contentValues (.smartPoster p) = contentValues (.smartPoster q) ↔ SamePoster p q
  := by
  have hmediaType : Json.orNull .string p.mediaType = .orNull .string q.mediaType
      ↔ p.mediaType = q.mediaType := by
    cases p.mediaType <;> cases q.mediaType <;> simp [Json.orNull]
  have hsize : Json.orNull (.number ·.toNat) p.size = .orNull (.number ·.toNat) q.size
      ↔ p.size = q.size := by
    cases p.size <;> cases q.size <;> simp [Json.orNull, UInt32.toNat_inj]
  simp only [contentValues, List.cons.injEq, Prod.mk.injEq, Json.string.injEq, true_and, and_true,
    Action.name_inj, hmediaType, hsize, orNull_iconValue_eq_iff]
  constructor
  · rintro ⟨huri, hcontent, hlanguage, hmediaType, hsize, haction, hicon⟩
    exact ⟨huri, title_eq_iff.mp ⟨hcontent, hlanguage⟩, hmediaType, hsize, haction, hicon⟩
  · rintro ⟨huri, htitle, hmediaType, hsize, haction, hicon⟩
    obtain ⟨hcontent, hlanguage⟩ := title_eq_iff.mpr htitle
    exact ⟨huri, hcontent, hlanguage, hmediaType, hsize, haction, hicon⟩

/-- Contents have the same members exactly if they say the same. -/
theorem contentValues_eq_iff {c d : Content} :
  contentValues c = contentValues d ↔ SameContent c d
  := by
  constructor
  · intro h
    cases c with
    | generic =>
      cases d with
      | generic => exact .generic
      | _ => simp [contentValues] at h
    | uri address =>
      cases d with
      | uri address' =>
        have haddress : address = address' := by simpa [contentValues] using h
        rw [haddress]
        exact .uri address'
      | _ => simp [contentValues] at h
    | text t =>
      cases d with
      | text u =>
        obtain ⟨language, content, encoding⟩ := t
        obtain ⟨language', content', encoding'⟩ := u
        simp only [contentValues, List.cons.injEq, Prod.mk.injEq, Json.string.injEq, true_and,
          and_true, TextEncoding.name_inj] at h
        obtain ⟨rfl, rfl, rfl⟩ := h
        exact .text _
      | _ => simp [contentValues] at h
    | smartPoster p =>
      cases d with
      | smartPoster q => exact .smartPoster (contentValues_smartPoster_eq_iff.mp h)
      | _ => simp [contentValues] at h
  · rintro (_ | _ | _ | h)
    · rfl
    · rfl
    · rfl
    · exact contentValues_smartPoster_eq_iff.mpr h

/-- Two records have the same line exactly if they agree in what is reported of their headers
and fields and their contents say the same. -/
theorem line_eq_iff {r s : Record} :
  line r = line s ↔ SameFields r s ∧ SameContent r.content s.content
  := by
  have hvalue : line r = line s ↔ value r = value s := by
    rw [← text_value, ← text_value]
    exact ⟨Json.text_injective, congrArg Json.text⟩
  rw [hvalue, value, value, Json.object.injEq, fieldValues_append_eq_iff, contentValues_eq_iff]

/-! ### The lines of a message -/

theorem line_ne_nil (r : Record) :
  line r ≠ []
  := List.cons_ne_nil _ _

theorem toList_lines (m : Message) :
  (lines m).toList = ['\n'].intercalate (m.records.map line)
  := by
  rw [lines, String.toList_ofList]
  rfl

/-- The lines of a message are its text split at the newlines. -/
theorem splitOn_lines (m : Message) :
  (lines m).toList.splitOn '\n' = m.records.map line
  := by
  rw [toList_lines]
  apply List.splitOn_intercalate
  · intro text htext hmem
    obtain ⟨r, -, rfl⟩ := List.mem_map.mp htext
    have hprintable := printable_line r '\n' hmem
    revert hprintable
    decide
  · simp [Message.records]

/-- Only the newlines between the lines are below U+0020. -/
theorem le_of_mem_lines {m : Message} {c : Char} (hc : c ∈ (lines m).toList) (hne : c ≠ '\n') :
  0x20 ≤ c.toNat
  := by
  rw [lines, String.toList_ofList, Message.records, List.map_cons, flatten_intersperse_cons,
    List.mem_append, List.mem_flatMap] at hc
  rcases hc with hc | ⟨text, htext, hc⟩
  · apply printable_line m.head c hc
  · obtain ⟨r, -, rfl⟩ := List.mem_map.mp htext
    rcases List.mem_cons.mp hc with heq | hc
    · exact absurd heq hne
    · apply printable_line r c hc

theorem lines_ne_empty (m : Message) :
  lines m ≠ ""
  := by
  intro h
  have hsplit := splitOn_lines m
  rw [h, Message.records, List.map_cons] at hsplit
  injection hsplit with hline
  exact line_ne_nil m.head hline.symm

end Report

namespace Request

variable {o : Options} {source : Source} {input : Bytes} {text : String}

/-- What is printed for bytes that are decoded are the lines of the message in them, if there
is one. -/
theorem answer_decode_eq_ok_iff :
  (decode source).answer o input = .ok text
    ↔ ∃ b, source.bytes input = .ok b ∧ ((o.decode? b).map Report.lines).getD "" = text
  := by
  rw [answer, Except.bind_eq_ok_iff]
  apply exists_congr
  intro b
  cases o.decode? b with
  | none => simp [pure, Except.pure]
  | some m => simp [pure, Except.pure]

/-- If bytes are decoded, nothing is printed exactly if there is no message in them.  Else what
is printed is one line for each record, in order, and no character below U+0020 but the
newlines between the lines.  Two records have the same line exactly if they agree in the format
and the text of their types, in place, id and payload and in all that their contents say. -/
theorem lines_of_answer_decode (h : (decode source).answer o input = .ok text) :
  (∃ b, source.bytes input = .ok b
      ∧ (text = "" ↔ o.decode? b = none)
      ∧ ∀ m, o.decode? b = some m →
        text.toList.splitOn '\n' = m.records.map Report.line
          ∧ (text.toList.splitOn '\n').length = m.length)
    ∧ (∀ c ∈ text.toList, c ≠ '\n' → 0x20 ≤ c.toNat)
    ∧ ∀ r s, Report.line r = Report.line s
      ↔ Report.SameFields r s ∧ Report.SameContent r.content s.content
  := by
  obtain ⟨b, hbytes, rfl⟩ := answer_decode_eq_ok_iff.mp h
  refine ⟨⟨b, hbytes, ?_, ?_⟩, ?_, fun r s => Report.line_eq_iff⟩
  · cases o.decode? b with
    | none => simp
    | some m => simp [Report.lines_ne_empty]
  · intro m hm
    rw [hm, Option.map_some, Option.getD_some, Report.splitOn_lines, List.length_map,
      Message.length_records]
    exact ⟨rfl, rfl⟩
  · cases o.decode? b with
    | none => simp
    | some m =>
      intro c hc hne
      exact Report.le_of_mem_lines hc hne

/-- A text with a newline and a quote in it, and a URI with an empty id, whose line is not that
of the URI without an id. -/
theorem lines_of_answer_decode_newline :
  let o : Options := ⟨.bare, none⟩
  let source : Source := .word "91 01 06 54 02 65 6E 0A 22 61 59 01 02 00 55 00 61"
  let first : Record := .framed { Frame.ofParts .wellKnown [0x54] none
    [0x02, 0x65, 0x6E, 0x0A, 0x22, 0x61] with position := ⟨true, false⟩ }
    (.text ⟨"en", "\n\"a", .utf8⟩)
  let second (id : Option Bytes) : Record :=
    .framed { Frame.ofParts .wellKnown [0x55] id [0x00, 0x61] with position := ⟨false, true⟩ }
      (.uri "a")
  ∃ text, (decode source).answer o [] = .ok text ∧ text ≠ ""
    ∧ text.toList.splitOn '\n' = [Report.line first, Report.line (second (some []))]
    ∧ (∀ c ∈ text.toList, c ≠ '\n' → 0x20 ≤ c.toNat)
    ∧ Report.line (second (some [])) ≠ Report.line (second none)
  := by
  intro o source first second
  have hbytes : source.bytes [] = .ok [0x91, 0x01, 0x06, 0x54, 0x02, 0x65, 0x6E, 0x0A, 0x22, 0x61,
      0x59, 0x01, 0x02, 0x00, 0x55, 0x00, 0x61] := by
    decide +kernel
  have hdecode : o.decode? [0x91, 0x01, 0x06, 0x54, 0x02, 0x65, 0x6E, 0x0A, 0x22, 0x61,
      0x59, 0x01, 0x02, 0x00, 0x55, 0x00, 0x61] = some ⟨first, [second (some [])]⟩ := by
    decide +kernel
  have hanswer : (decode source).answer o [] = .ok (Report.lines ⟨first, [second (some [])]⟩) :=
    answer_decode hbytes hdecode
  obtain ⟨⟨b, hb, hempty, hlines⟩, hprintable, hline⟩ := lines_of_answer_decode hanswer
  rw [hbytes] at hb
  injection hb with hb
  subst hb
  refine ⟨_, hanswer, ?_, (hlines _ hdecode).1, hprintable, ?_⟩
  · rw [ne_eq, hempty, hdecode]
    exact Option.some_ne_none _
  · rw [ne_eq, hline]
    rintro ⟨hfields, -⟩
    cases hfields.id

end Request

end Ndef
