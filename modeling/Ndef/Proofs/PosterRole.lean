import Mathlib.Logic.Relation
import Mathlib.Tactic.Common
import Ndef.Proofs.Content
import Ndef.Proofs.Framing
import Ndef.Proofs.PosterPart

/-!
# The roles of records in posters

A record in the payload of a smart poster has one of six roles, or it is passed over
(`existsUnique_roleOf`).  What the poster says depends on the records of each role alone, in
their order (`SmartPoster.ofParts?_congr`).  So putting in or taking out records that are
passed over, and exchanging neighbours of different roles (`Rearranges`), changes nothing,
however often it is done (`Message.decodedRecords_of_rearranges`).
-/

namespace Ndef

/-- What a record in the payload of a smart poster can be there for. -/
inductive PosterRole where
  | uri
  | title
  | action
  | size
  | mediaType
  | icon
deriving DecidableEq

/-- A record with the given format, type and payload is one for the role. -/
def PosterRole.Admits (tnf : Tnf) (type payload : Bytes) : PosterRole → Prop
  | uri => tnf = .wellKnown ∧ type = WellKnown.uri.type ∧ ∃ u, Uri.decode payload = .ok u
  | title => tnf = .wellKnown ∧ type = WellKnown.text.type ∧ ∃ t, Text.decode payload = .ok t
  | action => tnf = .wellKnown ∧ type = PosterPart.actionType ∧ payload.length = 1
  | size => tnf = .wellKnown ∧ type = PosterPart.sizeType ∧ payload.length = 4
  | mediaType => tnf = .wellKnown ∧ type = PosterPart.mediaTypeType
  | icon => tnf = .mediaType ∧ payload ≠ [] ∧ ∃ name, Utf8.decode? type = some name
    ∧ (MediaType.hasTop name "image" = true ∨ MediaType.hasTop name "video" = true)

/-- The byte string is one complete record for the role, and no chunk. -/
def HasRole (s : Bytes) (role : PosterRole) : Prop :=
  isChunk s = false
    ∧ ∃ header type id payload, Spells header type id payload s
      ∧ role.Admits (Tnf.ofBits header) type payload

/-- The role of a complete record.  A record without one is passed over. -/
def RoleOf (s : Bytes) : Option PosterRole → Prop
  | some role => HasRole s role
  | none => IsSpan s ∧ ∀ role, ¬ HasRole s role

/-- One change of the records in the payload of a smart poster. -/
inductive Rearranges : List Bytes → List Bytes → Prop where
  /-- A record that is passed over is put in. -/
  | insert (before after : List Bytes) {s : Bytes} (hs : RoleOf s none) :
      Rearranges (before ++ after) (before ++ s :: after)
  /-- A record that is passed over is taken out. -/
  | delete (before after : List Bytes) {s : Bytes} (hs : RoleOf s none) :
      Rearranges (before ++ s :: after) (before ++ after)
  /-- Two neighbours of different roles change places. -/
  | swap (before after : List Bytes) {s t : Bytes} {a b : Option PosterRole} (hs : RoleOf s a)
      (ht : RoleOf t b) (hne : a ≠ b) :
      Rearranges (before ++ s :: t :: after) (before ++ t :: s :: after)

/-- The byte string is a well-known record of type `Sp` with the given payload, and no
chunk. -/
def IsPosterRecord (payload s : Bytes) : Prop :=
  isChunk s = false
    ∧ ∃ header id, Tnf.ofBits header = .wellKnown
      ∧ Spells header WellKnown.smartPoster.type id payload s

/-! ### Parts and their roles -/

namespace PosterPart

variable {f : Frame} {role : PosterRole}

/-- The role of a record with this part. -/
def role? : PosterPart → Option PosterRole
  | uri _ => some .uri
  | title _ => some .title
  | action _ => some .action
  | size _ => some .size
  | mediaType _ => some .mediaType
  | icon _ => some .icon
  | ignored => none

theorem role?_eq_some_iff {part : PosterPart} :
  part.role? = some role ↔ match role with
    | .uri => ∃ u, part = .uri u
    | .title => ∃ t, part = .title t
    | .action => ∃ code, part = .action code
    | .size => ∃ n, part = .size n
    | .mediaType => ∃ name, part = .mediaType name
    | .icon => ∃ g, part = .icon g
  := by
  cases role <;> cases part <;> simp [role?]

/-- The part of a record is one for the role exactly if the record is. -/
theorem role?_ofFrame_eq_some_iff :
  (ofFrame f).role? = some role ↔ role.Admits f.tnf f.type f.payload
  := by
  rw [role?_eq_some_iff]
  cases role with
  | uri => simp only [ofFrame_eq_uri_iff, PosterRole.Admits, exists_and_left]
  | title => simp only [ofFrame_eq_title_iff, PosterRole.Admits, exists_and_left]
  | action =>
    simp only [ofFrame_eq_action_iff, PosterRole.Admits, exists_and_left, List.length_eq_one_iff]
  | size =>
    have hlength : (∃ n : UInt32, f.payload = Bytes.ofNat 4 n.toNat) ↔ f.payload.length = 4 := by
      constructor
      · rintro ⟨n, hn⟩
        rw [hn, Bytes.length_ofNat]
      · intro h
        exact ⟨_, (Bytes.uint32_ofNat_toNat_iff h).mp rfl⟩
    simp only [ofFrame_eq_size_iff, PosterRole.Admits, exists_and_left, hlength]
  | mediaType => simp [ofFrame_eq_mediaType_iff, PosterRole.Admits]
  | icon => simp [ofFrame_eq_icon_iff, PosterRole.Admits, ← isIcon_iff]

end PosterPart

/-- The role of a record. -/
def Frame.role? (f : Frame) : Option PosterRole :=
  if f.chunked then none else (PosterPart.ofFrame f).role?

section Roles

variable {s : Bytes} {f : Frame} {role : PosterRole} {a b : Option PosterRole}

theorem hasRole_bytes_iff (h : f.Fits) :
  HasRole f.bytes role ↔ f.role? = some role
  := by
  have hadmits : (∃ header type id payload, Spells header type id payload f.bytes
        ∧ role.Admits (Tnf.ofBits header) type payload)
      ↔ role.Admits f.tnf f.type f.payload := by
    have htnf : Tnf.ofBits f.header.byte = f.tnf := f.header.ofBits_byte
    constructor
    · rintro ⟨header, type, id, payload, hspells, hrole⟩
      obtain ⟨rfl, rfl, -, rfl⟩ := (spells_bytes_iff h).mp hspells
      rwa [htnf] at hrole
    · intro hrole
      refine ⟨_, _, _, _, spells_bytes h, ?_⟩
      rwa [htnf]
  rw [HasRole, hadmits, isChunk_bytes, Frame.role?, ← PosterPart.role?_ofFrame_eq_some_iff]
  cases f.chunked <;> simp

theorem roleOf_bytes_iff (h : f.Fits) :
  RoleOf f.bytes a ↔ f.role? = a
  := by
  cases a with
  | some role => apply hasRole_bytes_iff h
  | none =>
    have hspan : IsSpan f.bytes := isSpan_iff.mpr ⟨f, h, rfl⟩
    simp only [RoleOf, hasRole_bytes_iff h, hspan, true_and]
    rw [Option.eq_none_iff_forall_ne_some]

theorem RoleOf.isSpan (h : RoleOf s a) :
  IsSpan s
  := by
  cases a with
  | none => apply h.1
  | some role =>
    obtain ⟨-, header, type, id, payload, hspells, -⟩ := h
    exact ⟨header, type, id, payload, hspells⟩

/-- A complete record has one role, or is passed over. -/
theorem existsUnique_roleOf (h : IsSpan s) :
  ∃! a, RoleOf s a
  := by
  obtain ⟨f, hfits, rfl⟩ := isSpan_iff.mp h
  simp only [roleOf_bytes_iff hfits]
  apply existsUnique_eq'

end Roles

/-- The poster records are the bytes of the well-known frames of type `Sp` that fit and are
no chunks. -/
theorem isPosterRecord_iff {payload s : Bytes} :
  IsPosterRecord payload s
    ↔ ∃ f : Frame, f.Fits ∧ f.bytes = s ∧ f.chunked = false ∧ f.tnf = .wellKnown
      ∧ f.type = WellKnown.smartPoster.type ∧ f.payload = payload
  := by
  have htnf (f : Frame) : Tnf.ofBits f.header.byte = f.tnf := f.header.ofBits_byte
  constructor
  · rintro ⟨hwhole, header, id, hformat, hspells⟩
    obtain ⟨f, hfits, rfl, rfl, htype, -, rfl⟩ := hspells.exists_frame
    rw [isChunk_bytes] at hwhole
    rw [htnf] at hformat
    exact ⟨f, hfits, rfl, hwhole, hformat, htype, rfl⟩
  · rintro ⟨f, hfits, rfl, hwhole, hformat, htype, rfl⟩
    rw [← isChunk_bytes] at hwhole
    rw [← htnf] at hformat
    rw [IsPosterRecord, ← htype]
    exact ⟨hwhole, _, _, hformat, spells_bytes hfits⟩

/-- A smart poster in the payload of a smart poster is passed over, whatever it says. -/
theorem IsPosterRecord.roleOf_none {payload s : Bytes} (h : IsPosterRecord payload s) :
  RoleOf s none
  := by
  obtain ⟨f, hfits, rfl, hwhole, htnf, htype, -⟩ := isPosterRecord_iff.mp h
  rw [roleOf_bytes_iff hfits, Frame.role?, Option.eq_none_iff_forall_ne_some]
  intro role
  rw [if_neg (by simp [hwhole]), Ne, PosterPart.role?_ofFrame_eq_some_iff, htnf, htype]
  cases role <;> simp [PosterRole.Admits, WellKnown.type, PosterPart.actionType,
    PosterPart.sizeType, PosterPart.mediaTypeType]

/-! ### Parts in order -/

namespace SmartPoster

variable {language : Option Language} {s payload rest : Bytes} {spans spans' : List Bytes}
  {a : Option PosterRole} {role : PosterRole}

/-- A record that is no chunk has one part, and a chunk has none. -/
theorem parts_bytes {f : Frame} (h : f.Fits) :
  parts f.bytes = ([f].filter (!·.chunked)).map PosterPart.ofFrame
  := by
  have hframes : ∀ g ∈ [f], g.Fits := by simpa using h
  have hread := Frame.ofBytes_flatMap_bytes hframes
  rw [List.flatMap_singleton] at hread
  rw [parts, hread]

/-- The parts of a payload are those of its records, one after the other. -/
theorem parts_of_splits (h : Splits payload spans rest) :
  parts payload = spans.flatMap parts
  := by
  obtain ⟨frames, hall, rfl⟩ := splits_iff.mp h
  obtain ⟨-, hfits, -⟩ := Frame.accepts.all_eq_iff.mp hall
  rw [parts, Frame.ofBytes, hall]
  clear h hall
  induction frames with
  | nil => rfl
  | cons f frames ih =>
    have hf : f.Fits := hfits f List.mem_cons_self
    have hrest := ih fun g hg => hfits g (List.mem_cons_of_mem f hg)
    rw [List.map_cons, List.flatMap_cons, parts_bytes hf, ← hrest, ← List.map_append,
      ← List.filter_append, List.singleton_append]

/-- A record has parts for its own role only. -/
theorem filter_parts_eq_nil (hs : RoleOf s a) (hne : a ≠ some role) :
  (parts s).filter (·.role? = some role) = []
  := by
  obtain ⟨f, hfits, rfl⟩ := isSpan_iff.mp hs.isSpan
  have hrole := (roleOf_bytes_iff hfits).mp hs
  rw [Frame.role?] at hrole
  rw [parts_bytes hfits]
  cases hchunked : f.chunked with
  | true => simp [hchunked]
  | false =>
    rw [if_neg (by simp [hchunked])] at hrole
    simp [hchunked, hrole, hne]

/-! ### The poster made of the parts for each role -/

/-- What is told by parts for one role only is told by the parts for that role. -/
theorem filterMap_filter_role? {α : Type} {g : PosterPart → Option α}
    (hg : ∀ part a, g part = some a → part.role? = some role) (parts : List PosterPart) :
  (parts.filter (·.role? = some role)).filterMap g = parts.filterMap g
  := by
  rw [List.filterMap_filter]
  apply List.filterMap_congr
  intro part _
  split
  · rfl
  · next hrole =>
    symm
    rw [Option.eq_none_iff_forall_ne_some]
    intro a ha
    apply hrole
    simpa using hg part a ha

/-- The poster depends on the parts for each role alone. -/
theorem ofParts?_congr {parts parts' : List PosterPart}
    (h : ∀ role, parts'.filter (·.role? = some role) = parts.filter (·.role? = some role)) :
  ofParts? language parts' = ofParts? language parts
  := by
  have hmap {α : Type} {g : PosterPart → Option α} {role : PosterRole}
      (hg : ∀ part a, g part = some a → part.role? = some role) :
      parts'.filterMap g = parts.filterMap g := by
    rw [← filterMap_filter_role? hg parts', h role, filterMap_filter_role? hg parts]
  have huri : parts'.filterMap PosterPart.uri? = parts.filterMap PosterPart.uri? :=
    hmap fun part u hu => by rw [PosterPart.uri?_eq_some_iff.mp hu, PosterPart.role?]
  have htitle : parts'.filterMap PosterPart.title? = parts.filterMap PosterPart.title? :=
    hmap fun part t ht => by rw [PosterPart.title?_eq_some_iff.mp ht, PosterPart.role?]
  have haction : parts'.filterMap PosterPart.action? = parts.filterMap PosterPart.action? :=
    hmap fun part code ha => by rw [PosterPart.action?_eq_some_iff.mp ha, PosterPart.role?]
  have hsize : parts'.filterMap PosterPart.size? = parts.filterMap PosterPart.size? :=
    hmap fun part n hn => by rw [PosterPart.size?_eq_some_iff.mp hn, PosterPart.role?]
  have hmediaType : parts'.filterMap PosterPart.mediaType? = parts.filterMap PosterPart.mediaType? :=
    hmap fun part name hname => by
      rw [PosterPart.mediaType?_eq_some_iff.mp hname, PosterPart.role?]
  have hicon : parts'.filterMap PosterPart.icon? = parts.filterMap PosterPart.icon? :=
    hmap fun part f hf => by rw [PosterPart.icon?_eq_some_iff.mp hf, PosterPart.role?]
  simp only [ofParts?, ← List.head?_filterMap, huri, htitle, haction, hsize, hmediaType, hicon]

end SmartPoster

/-! ### Rearranging the records -/

namespace Rearranges

variable {payload rest : Bytes} {spans spans' : List Bytes}

/-- One change leaves complete records. -/
theorem isSpan (h : Rearranges spans spans') (hspans : ∀ s ∈ spans, IsSpan s) :
  ∀ s ∈ spans', IsSpan s
  := by
  cases h with
  | insert before after hs =>
    simp only [List.forall_mem_append, List.forall_mem_cons] at hspans ⊢
    exact ⟨hspans.1, hs.isSpan, hspans.2⟩
  | delete before after hs =>
    simp only [List.forall_mem_append, List.forall_mem_cons] at hspans ⊢
    exact ⟨hspans.1, hspans.2.2⟩
  | swap before after hs ht hne =>
    simp only [List.forall_mem_append, List.forall_mem_cons] at hspans ⊢
    exact ⟨hspans.1, ht.isSpan, hs.isSpan, hspans.2.2.2⟩

/-- One change leaves the parts for each role, in their order. -/
theorem filter_parts (h : Rearranges spans spans') (role : PosterRole) :
  (spans'.flatMap SmartPoster.parts).filter (·.role? = some role)
    = (spans.flatMap SmartPoster.parts).filter (·.role? = some role)
  := by
  cases h with
  | @insert before after s hs =>
    have hnone : (SmartPoster.parts s).filter (·.role? = some role) = [] :=
      SmartPoster.filter_parts_eq_nil hs (by simp)
    simp [hnone]
  | @delete before after s hs =>
    have hnone : (SmartPoster.parts s).filter (·.role? = some role) = [] :=
      SmartPoster.filter_parts_eq_nil hs (by simp)
    simp [hnone]
  | @swap before after s t a b hs ht hne =>
    -- At least one of the two neighbours has nothing for this role.
    have hone : a ≠ some role ∨ b ≠ some role := by
      by_contra hboth
      push Not at hboth
      exact hne (hboth.1.trans hboth.2.symm)
    rcases hone with ha | hb
    · have hnone := SmartPoster.filter_parts_eq_nil hs ha
      simp [hnone]
    · have hnone := SmartPoster.filter_parts_eq_nil ht hb
      simp [hnone]

/-- Changes one after the other leave complete records, and the parts for each role in
their order. -/
theorem run (h : Relation.ReflTransGen Rearranges spans spans') (hspans : ∀ s ∈ spans, IsSpan s) :
  (∀ s ∈ spans', IsSpan s)
    ∧ ∀ role : PosterRole, (spans'.flatMap SmartPoster.parts).filter (·.role? = some role)
      = (spans.flatMap SmartPoster.parts).filter (·.role? = some role)
  := by
  induction h with
  | refl => exact ⟨hspans, fun role => rfl⟩
  | tail _ hstep ih =>
    obtain ⟨hbetween, hparts⟩ := ih
    refine ⟨hstep.isSpan hbetween, ?_⟩
    intro role
    rw [hstep.filter_parts role, hparts role]

end Rearranges

section Decoding

variable {payload payload' rest s s' : Bytes} {spans spans' before : List Bytes}

/-- Rearranged records follow each other in front of the same rest. -/
theorem Splits.rearranged (h : Splits payload spans rest)
    (hmoves : Relation.ReflTransGen Rearranges spans spans') :
  Splits (spans'.flatten ++ rest) spans' rest
  := ⟨rfl, (Rearranges.run hmoves h.isSpan).1, h.stuck⟩

/-- A rearranged payload says the same, or as little. -/
theorem SmartPoster.decode?_rearranged (language : Option Language) (h : Splits payload spans rest)
    (hmoves : Relation.ReflTransGen Rearranges spans spans') :
  decode? language (spans'.flatten ++ rest) = decode? language payload
  := by
  rw [decode?, decode?, parts_of_splits h, parts_of_splits (h.rearranged hmoves)]
  apply ofParts?_congr (Rearranges.run hmoves h.isSpan).2

namespace Message

/-- A poster record says what its payload says, wherever it stands in a message. -/
theorem decodedRecords_posterRecord (language : Option Language) (hs : IsPosterRecord payload s)
    (hbefore : ∀ t ∈ before, IsSpan t) (after : Bytes) :
  ∃ r, decodedRecords language (before.flatten ++ (s ++ after))
      = recordsOf language before.flatten ++ r :: recordsOf language after
    ∧ r.bytes = s ∧ r.content = .ofWellKnown language payload .smartPoster
  := by
  obtain ⟨f, hfits, rfl, hwhole, htnf, htype, rfl⟩ := isPosterRecord_iff.mp hs
  refine ⟨.ofFrame language f, ?_, rfl, Content.ofFrame_of_type htnf htype⟩
  have hne : before.flatten ++ (f.bytes ++ after) ≠ [] := by
    simp [Frame.bytes]
  rw [decodedRecords_of_ne_nil language hne, recordsOf_flatten_append language hbefore,
    recordsOf_bytes_append language hfits hwhole]

/-- Each record in the payload of a smart poster has one role or is passed over.  If records
that are passed over are put in or taken out anywhere between the others, and neighbours of
different roles change places, any number of times, then the payload still falls into just
the records that result, and the poster around it says what it said, for every display
language and between any other records, or is still left uninterpreted. -/
theorem decodedRecords_of_rearranges (language : Option Language)
    (hsplits : Splits payload spans rest) (hmoves : Relation.ReflTransGen Rearranges spans spans')
    (hs : IsPosterRecord payload s) (hs' : IsPosterRecord (spans'.flatten ++ rest) s')
    (hbefore : ∀ t ∈ before, IsSpan t) (after : Bytes) :
  (∀ t ∈ spans, ∃! role, RoleOf t role)
    ∧ Splits (spans'.flatten ++ rest) spans' rest
    ∧ ∃ r r', decodedRecords language (before.flatten ++ (s ++ after))
        = recordsOf language before.flatten ++ r :: recordsOf language after
      ∧ decodedRecords language (before.flatten ++ (s' ++ after))
        = recordsOf language before.flatten ++ r' :: recordsOf language after
      ∧ r.bytes = s ∧ r'.bytes = s' ∧ r'.content = r.content
  := by
  refine ⟨?_, hsplits.rearranged hmoves, ?_⟩
  · intro t ht
    apply existsUnique_roleOf (hsplits.isSpan t ht)
  · obtain ⟨r, hr, hbytes, hcontent⟩ := decodedRecords_posterRecord language hs hbefore after
    obtain ⟨r', hr', hbytes', hcontent'⟩ := decodedRecords_posterRecord language hs' hbefore after
    refine ⟨r, r', hr, hr', hbytes, hbytes', ?_⟩
    rw [hcontent, hcontent', Content.ofWellKnown, Content.ofWellKnown,
      SmartPoster.decode?_rearranged language hsplits hmoves]

/-- A URI and a title change places, and another smart poster is put between them, all in
front of a byte that begins no record. -/
theorem decodedRecords_of_rearranges_nested :
  let uri : Bytes := [0x91, 0x01, 0x02, 0x55, 0x04, 0x61]
  let title : Bytes := [0x51, 0x01, 0x04, 0x54, 0x02, 0x65, 0x6E, 0x78]
  let nested : Bytes := [0x11, 0x02, 0x01, 0x53, 0x70, 0x00]
  let poster : Bytes := [0xD1, 0x02, 0x0F, 0x53, 0x70] ++ (uri ++ title ++ [0x00])
  let rearranged : Bytes := [0xD1, 0x02, 0x15, 0x53, 0x70] ++ (title ++ nested ++ uri ++ [0x00])
  RoleOf uri (some .uri) ∧ RoleOf title (some .title) ∧ RoleOf nested none
    ∧ Splits (uri ++ title ++ [0x00]) [uri, title] [0x00]
    ∧ Relation.ReflTransGen Rearranges [uri, title] [title, nested, uri]
    ∧ IsPosterRecord (uri ++ title ++ [0x00]) poster
    ∧ IsPosterRecord (title ++ nested ++ uri ++ [0x00]) rearranged
    ∧ ∃ r r', decodedRecords none poster = [r] ∧ decodedRecords none rearranged = [r']
      ∧ r'.content = r.content ∧ ∃ p, r.content = .smartPoster p
  := by
  intro uri title nested poster rearranged
  let f : Frame := {
    position := ⟨true, false⟩, chunked := false, short := true, tnf := .wellKnown
    type := [0x55], id := none, payload := [0x04, 0x61] }
  let g : Frame := {
    position := ⟨false, true⟩, chunked := false, short := true, tnf := .wellKnown
    type := [0x54], id := none, payload := [0x02, 0x65, 0x6E, 0x78] }
  let h (position : Position) (payload : Bytes) : Frame := {
    position, chunked := false, short := true, tnf := .wellKnown
    type := WellKnown.smartPoster.type, id := none, payload }
  have huri : RoleOf uri (some .uri) := by
    have hbytes : f.bytes = uri := by decide
    rw [← hbytes]
    apply (roleOf_bytes_iff (by decide)).mpr
    decide +kernel
  have htitle : RoleOf title (some .title) := by
    have hbytes : g.bytes = title := by decide
    rw [← hbytes]
    apply (roleOf_bytes_iff (by decide)).mpr
    decide +kernel
  have hrecord (position : Position) {payload s : Bytes} (hlength : payload.length < 0x100)
      (hbytes : (h position payload).bytes = s) : IsPosterRecord payload s := by
    have hfits : (h position payload).Fits := ⟨by simp [h, WellKnown.type], by simp [h], hlength⟩
    exact isPosterRecord_iff.mpr ⟨_, hfits, hbytes, rfl, rfl, rfl, rfl⟩
  have hnested : IsPosterRecord [0x00] nested :=
    hrecord .inner (by decide) (by decide)
  have hsplits : Splits (uri ++ title ++ [0x00]) [uri, title] [0x00] := by
    apply splits_iff.mpr
    use [f, g]
    constructor
    · apply Frame.accepts.all_eq_iff.mpr
      decide
    · decide
  have hmoves : Relation.ReflTransGen Rearranges [uri, title] [title, nested, uri] := by
    have hswap : Rearranges [uri, title] [title, uri] := .swap [] [] huri htitle (by decide)
    have hinsert : Rearranges [title, uri] [title, nested, uri] :=
      .insert [title] [uri] hnested.roleOf_none
    exact (Relation.ReflTransGen.single hswap).tail hinsert
  have hposter : IsPosterRecord (uri ++ title ++ [0x00]) poster :=
    hrecord .alone (by decide) (by decide)
  have hrearranged : IsPosterRecord (title ++ nested ++ uri ++ [0x00]) rearranged :=
    hrecord .alone (by decide) (by decide)
  have hbefore : ∀ t ∈ ([] : List Bytes), IsSpan t := by simp
  obtain ⟨-, -, r, r', hr, hr', -, -, hcontent⟩ :=
    decodedRecords_of_rearranges none hsplits hmoves hposter hrearranged hbefore []
  refine ⟨huri, htitle, hnested.roleOf_none, hsplits, hmoves, hposter, hrearranged, r, r', ?_, ?_,
    hcontent, ?_⟩
  · simpa [recordsOf_nil] using hr
  · simpa [recordsOf_nil] using hr'
  · have hsome : (SmartPoster.decode? none (uri ++ title ++ [0x00])).isSome = true := by
      decide +kernel
    obtain ⟨p, hp⟩ := Option.isSome_iff_exists.mp hsome
    obtain ⟨q, hq, -, hread⟩ := decodedRecords_posterRecord none hposter hbefore []
    rw [hr] at hq
    obtain rfl : r = q := by simpa [recordsOf_nil] using hq
    exact ⟨p, by rw [hread, Content.ofWellKnown, hp]⟩

end Message

end Decoding

end Ndef
