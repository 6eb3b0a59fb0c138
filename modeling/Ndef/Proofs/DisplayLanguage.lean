import Mathlib.Data.List.Forall2
import Mathlib.Tactic.Common
import Ndef.Proofs.AreaMessages
import Ndef.Proofs.Selection

/-!
# The display language

The display language chooses the titles of smart posters and has no other influence on what
is decoded.  Decoding the same bytes for two display languages fails for both or yields
messages of equally many records, and records at the same place agree in everything but the
titles of posters (`Message.decode?_agreesButTitles`).  The title is each time that of one
of the texts in the payload of the poster, so it is the same if there is but one text.
-/

namespace Ndef

/-! ### Agreement -/

/-- The poster without its title. -/
def SmartPoster.untitled (p : SmartPoster) : SmartPoster :=
  { p with title := none }

/-- The title of the poster is the text of one of the records, with its language; there is
no title only if no record is a text. -/
def SmartPoster.TitledFrom (records : List Record) (p : SmartPoster) : Prop :=
  match p.title with
  | none => ∀ r ∈ records, r.text? = none
  | some title => ∃ r ∈ records, ∃ t, r.text? = some t
      ∧ title = { content := t.content, language := t.language }

/-- Two posters with the given payload agree in everything but the title, which both take
from the texts in the payload. -/
structure SmartPoster.AgreesButTitle (payload : Bytes) (p q : SmartPoster) : Prop where
  untitled : p.untitled = q.untitled
  left : p.TitledFrom (subrecords payload)
  right : q.TitledFrom (subrecords payload)
  eq_of_count_le_one : (subrecords payload).countP (·.text?.isSome) ≤ 1 → p = q

/-- Two contents of a record with the given payload agree in everything but the titles of
smart posters. -/
inductive Content.AgreesButTitle (payload : Bytes) : Content → Content → Prop where
  | generic : AgreesButTitle payload .generic .generic
  | uri (u : String) : AgreesButTitle payload (.uri u) (.uri u)
  | text (t : Text) : AgreesButTitle payload (.text t) (.text t)
  | smartPoster {p q : SmartPoster} (h : p.AgreesButTitle payload q) :
      AgreesButTitle payload (.smartPoster p) (.smartPoster q)

/-- Two records agree in everything but the titles of smart posters. -/
structure Record.AgreesButTitle (r s : Record) : Prop where
  bytes : r.bytes = s.bytes
  tnf : r.tnf = s.tnf
  wellKnown : r.wellKnown? = s.wellKnown?
  position : r.position = s.position
  type : r.type = s.type
  id : r.id = s.id
  payload : r.payload = s.payload
  content : r.content.AgreesButTitle r.payload s.content

/-- Two messages have equally many records, and records at the same place agree in everything
but the titles of smart posters. -/
def Message.AgreesButTitles (m n : Message) : Prop :=
  List.Forall₂ Record.AgreesButTitle m.records n.records

variable {language language' : Option Language} {payload : Bytes} {p q : SmartPoster}

/-! ### Titles -/

namespace SmartPoster

/-- Without its title, the poster made of the parts does not depend on the language. -/
theorem map_untitled_decode? (language language' : Option Language) (payload : Bytes) :
  (decode? language payload).map untitled = (decode? language' payload).map untitled
  := by
  rw [decode?, decode?, ofParts?, ofParts?]
  split <;> rfl

theorem title_of_decode? (h : decode? language payload = some p) :
  p.title = (bestTitle? language ((subrecords payload).filterMap Record.text?)).map
    fun t => { content := t.content, language := t.language }
  := by
  rw [decode?, ofParts?, filterMap_title?_parts] at h
  split at h
  · injection h with h
    rw [← h]
  · cases h

theorem titledFrom_of_decode? (h : decode? language payload = some p) :
  p.TitledFrom (subrecords payload)
  := by
  have hselected := selected_of_decode? h
  rw [TitledFrom]
  split
  · next htitle => apply hselected.untitled.mp htitle
  · next title htitle =>
    obtain ⟨r, t, hr, ht, rfl⟩ := (hselected.title title).mp htitle
    exact ⟨r, hr.mem, t, ht, rfl⟩

/-- Of at most one text, every language chooses the same. -/
theorem bestTitle?_of_length_le_one {texts : List Text} (h : texts.length ≤ 1) :
  bestTitle? language texts = bestTitle? language' texts
  := by
  match texts with
  | [] => rfl
  | [t] => cases language <;> cases language' <;> rfl
  | _ :: _ :: _ =>
    simp only [List.length_cons] at h
    omega

/-- A poster is determined by its title and what it says without it. -/
theorem eq_of_untitled (huntitled : p.untitled = q.untitled) (htitle : p.title = q.title) :
  p = q
  := by
  cases p
  cases q
  simp_all [untitled]

/-- The posters that two languages find in the same payload agree but in their titles. -/
theorem agreesButTitle_of_decode? (hp : decode? language payload = some p)
    (hq : decode? language' payload = some q) :
  p.AgreesButTitle payload q
  := by
  have huntitled : p.untitled = q.untitled := by
    have h := map_untitled_decode? language language' payload
    rw [hp, hq] at h
    injection h
  constructor
  · apply huntitled
  · apply titledFrom_of_decode? hp
  · apply titledFrom_of_decode? hq
  · intro hcount
    apply eq_of_untitled huntitled
    rw [← List.length_filterMap_eq_countP] at hcount
    rw [title_of_decode? hp, title_of_decode? hq, bestTitle?_of_length_le_one hcount]

end SmartPoster

/-! ### Records -/

namespace Content

/-- What a frame says for two languages agrees but in the titles of smart posters. -/
theorem agreesButTitle_ofFrame (language language' : Option Language) (f : Frame) :
  (ofFrame language f).AgreesButTitle f.payload (ofFrame language' f)
  := by
  rw [ofFrame, ofFrame]
  split
  · split
    · next w hw =>
      cases w with
      | uri =>
        rw [ofWellKnown, ofWellKnown]
        split
        · apply AgreesButTitle.uri
        · apply AgreesButTitle.generic
      | text =>
        rw [ofWellKnown, ofWellKnown]
        split
        · apply AgreesButTitle.text
        · apply AgreesButTitle.generic
      | smartPoster =>
        have huntitled := SmartPoster.map_untitled_decode? language language' f.payload
        rw [ofWellKnown, ofWellKnown]
        cases hp : SmartPoster.decode? language f.payload with
        | none =>
          rw [hp, Option.map_none] at huntitled
          rw [Option.map_eq_none_iff.mp huntitled.symm]
          apply AgreesButTitle.generic
        | some p =>
          rw [hp, Option.map_some] at huntitled
          obtain ⟨q, hq, -⟩ := Option.map_eq_some_iff.mp huntitled.symm
          rw [hq]
          apply AgreesButTitle.smartPoster
          apply SmartPoster.agreesButTitle_of_decode? hp hq
    · apply AgreesButTitle.generic
  · apply AgreesButTitle.generic

theorem AgreesButTitle.wellKnown? {c d : Content} (h : c.AgreesButTitle payload d) :
  c.wellKnown? = d.wellKnown?
  := by
  cases h <;> rfl

end Content

namespace Record

theorem agreesButTitle_empty :
  empty.AgreesButTitle empty
  := ⟨rfl, rfl, rfl, rfl, rfl, rfl, rfl, .generic⟩

/-- The records of a frame for two languages agree but in the titles of smart posters. -/
theorem agreesButTitle_ofFrame (language language' : Option Language) (f : Frame) :
  (ofFrame language f).AgreesButTitle (ofFrame language' f)
  := by
  have hcontent := Content.agreesButTitle_ofFrame language language' f
  exact ⟨rfl, rfl, hcontent.wellKnown?, rfl, rfl, rfl, rfl, hcontent⟩

end Record

/-! ### Messages -/

namespace Message

theorem forall₂_decodedRecords (language language' : Option Language) (b : Bytes) :
  List.Forall₂ Record.AgreesButTitle (decodedRecords language b) (decodedRecords language' b)
  := by
  by_cases hb : b = []
  · subst hb
    apply List.Forall₂.cons Record.agreesButTitle_empty .nil
  · rw [decodedRecords_of_ne_nil language hb, decodedRecords_of_ne_nil language' hb, recordsOf,
      recordsOf, List.forall₂_map_left_iff, List.forall₂_map_right_iff, List.forall₂_same]
    intro f _
    apply Record.agreesButTitle_ofFrame

theorem forall₂_areaRecords (language language' : Option Language) (s : Bytes) :
  List.Forall₂ Record.AgreesButTitle (areaRecords language s) (areaRecords language' s)
  := by
  rw [areaRecords_eq, areaRecords_eq]
  induction Area.messages s with
  | nil => exact .nil
  | cons value values ih =>
    rw [List.flatMap_cons, List.flatMap_cons]
    apply List.rel_append (forall₂_decodedRecords language language' value) ih

/-- Records that agree make messages that agree, or none. -/
theorem rel_ofRecords? {l l' : List Record} (h : List.Forall₂ Record.AgreesButTitle l l') :
  Option.Rel AgreesButTitles (ofRecords? l) (ofRecords? l')
  := by
  cases h with
  | nil => exact .none
  | cons hr hl => exact .some (.cons hr hl)

/-- Decoding a byte string, or an area, for two display languages fails for both, or yields
messages that agree in everything but the titles of smart posters. -/
theorem decode?_agreesButTitles (language language' : Option Language) (b : Bytes) :
  Option.Rel AgreesButTitles (decode? language b) (decode? language' b)
    ∧ Option.Rel AgreesButTitles (ofArea? language b) (ofArea? language' b)
  := by
  constructor
  · rw [← ofRecords?_decodedRecords, ← ofRecords?_decodedRecords]
    apply rel_ofRecords? (forall₂_decodedRecords language language' b)
  · rw [ofArea?_eq, ofArea?_eq, ← areaRecords_eq, ← areaRecords_eq]
    apply rel_ofRecords? (forall₂_areaRecords language language' b)

end Message

/-- Of a text in English and one in German, the display language chooses the title. -/
example :
  let payload : Bytes := [
    0x91, 0x01, 0x02, 0x55, 0x04, 0x61,
    0x11, 0x01, 0x04, 0x54, 0x02, 0x65, 0x6E, 0x61,
    0x51, 0x01, 0x04, 0x54, 0x02, 0x64, 0x65, 0x62]
  (SmartPoster.decode? (some ⟨"de", none⟩) payload).map SmartPoster.title
    ≠ (SmartPoster.decode? none payload).map SmartPoster.title
  := by
  decide +kernel

end Ndef
