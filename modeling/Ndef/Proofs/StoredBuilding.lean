import Ndef.Proofs.PosterDraft
import Ndef.Proofs.StoredReading
import Ndef.Stored.Building

/-!
# Building stored records

A stored record is built exactly if the record is, and is then its stored form; else the error
is the same (`StoredRecord.build_eq`).  In particular, what was written is always framed again.
A stored smart poster is put together of stored records whose flags are cleared one after the
other, and it is the stored form of the smart poster that is built
(`StoredRecord.buildSmartPoster_eq`).
-/

namespace Ndef

/-! ### Outcomes -/

/-- The outcome of storing what is built. -/
def storing {α β : Type} (stores : α → β) : Except BuildError α → Except StoreError β
  | .ok a => .ok (stores a)
  | .error e => .error (.refused e)

section Storing

variable {α β γ δ : Type} {stores : α → β} {x : Except BuildError α}

theorem storing_eq_ok_iff {b : β} :
  storing stores x = .ok b ↔ ∃ a, x = .ok a ∧ stores a = b
  := by
  cases x <;> simp [storing]

theorem mapError_refused (x : Except BuildError α) :
  x.mapError StoreError.refused = storing id x
  := by
  cases x <;> rfl

theorem map_storing (f : β → γ) (x : Except BuildError α) :
  (storing stores x).map f = storing (f ∘ stores) x
  := by
  cases x <;> rfl

theorem storing_map (f : γ → α) (x : Except BuildError γ) :
  storing stores (x.map f) = storing (stores ∘ f) x
  := by
  cases x <;> rfl

/-- Storing commutes with two steps if it does with the second one after the first. -/
theorem storing_bind {f : α → Except BuildError γ} {g : β → Except StoreError δ} {stores' : γ → δ}
    (h : ∀ a, x = .ok a → g (stores a) = storing stores' (f a)) :
  storing stores x >>= g = storing stores' (x >>= f)
  := by
  cases x with
  | error e => rfl
  | ok a => exact h a rfl

/-- Storing commutes with a step that is taken with a value that may be absent. -/
theorem mapM_storing {f : γ → Except BuildError α} {g : γ → Except StoreError β}
    (h : ∀ c, g c = storing stores (f c)) (o : Option γ) :
  o.mapM g = storing (Option.map stores) (o.mapM f)
  := by
  cases o with
  | none => rfl
  | some c =>
    rw [Option.mapM_some, Option.mapM_some, h]
    cases f c <;> rfl

end Storing

/-! ### Single records -/

/-- The frame of a record that is built is framed again. -/
theorem RawRecord.build_eq (tnf : Tnf) (type : Bytes) (id : Option Bytes) (payload : Bytes) :
  build tnf type id payload = storing ofFrame (Frame.build tnf type id payload)
  := by
  rw [build, mapError_refused]
  cases hbuild : Frame.build tnf type id payload with
  | error e => rfl
  | ok f =>
    obtain ⟨hfits, rfl⟩ := Frame.build_eq_ok_iff.mp hbuild
    have hframe := frame_bytes_append hfits []
    rw [List.append_nil] at hframe
    change (frame (Frame.ofParts tnf type id payload).bytes).mapError StoreError.unframed = _
    rw [hframe]
    rfl

namespace StoredRecord

theorem build_eq (tnf : Tnf) (type : Bytes) (id : Option Bytes) (payload : Bytes) :
  build tnf type id payload = storing Record.stored (Record.build tnf type id payload)
  := by
  rw [build, RawRecord.build_eq, map_storing, Record.build, storing_map]
  congr 1
  funext f
  apply RawRecord.dispatch_eq

theorem buildWellKnown_eq (type id payload : Bytes) :
  buildWellKnown type id payload = storing Record.stored (Record.buildWellKnown type id payload)
  := build_eq _ _ _ _

theorem buildMedia_eq (mediaType : String) (payload : Bytes) :
  buildMedia mediaType payload = storing Record.stored (Record.buildMedia mediaType payload)
  := by
  rw [buildMedia, Record.buildMedia]
  split
  · rw [RawRecord.build_eq, map_storing, storing_map]
    rfl
  · rfl

theorem buildAs_eq (w : WellKnown) (payload : Bytes) :
  buildAs w payload = storing Record.stored (Record.buildAs w payload)
  := by
  rw [buildAs, Record.buildAs, buildWellKnown_eq]
  apply storing_bind
  intro r _
  rw [Record.wellKnown?_stored]
  split <;> rfl

theorem buildUri_eq (uri : String) :
  buildUri uri = storing Record.stored (Record.buildUri uri)
  := buildAs_eq _ _

theorem buildText_eq (t : Text) :
  buildText t = storing Record.stored (Record.buildText t)
  := by
  rw [buildText, Record.buildText, mapError_refused]
  apply storing_bind
  intro payload _
  apply buildAs_eq

theorem buildTextOrDefault_eq (content language : Option String) (encoding : TextEncoding)
    (current : Option Language) :
  buildTextOrDefault content language encoding current
    = storing Record.stored (Record.buildTextOrDefault content language encoding current)
  := buildText_eq _

end StoredRecord

/-! ### Smart posters -/

/-- The draft with its icon stored. -/
def PosterDraft.stored (d : PosterDraft) : StoredDraft where
  uri := d.uri
  title := d.title
  language := d.language
  current := d.current
  mediaType := d.mediaType
  size := d.size
  action := d.action
  icon := d.icon.map Record.stored

theorem StoredDraft.buildMediaType_eq (name : String) :
  buildMediaType name = storing Record.stored (PosterDraft.buildMediaType name)
  := by
  rw [buildMediaType, PosterDraft.buildMediaType]
  split
  · apply StoredRecord.buildWellKnown_eq
  · rfl

/-- The stored records of a draft are the stored forms of its records. -/
theorem StoredDraft.records_eq (d : PosterDraft) :
  d.stored.records = storing (List.map Record.stored) d.records
  := by
  have hicon : d.stored.icon.mapM (fun r => StoredRecord.build r.tnf r.type r.id r.payload)
      = storing (Option.map Record.stored)
        (d.icon.mapM fun r => Record.build r.tnf r.type r.id r.payload) := by
    have hstored (r : Record) : StoredRecord.build r.stored.tnf r.stored.type r.stored.id
        r.stored.payload = storing Record.stored (Record.build r.tnf r.type r.id r.payload) := by
      rw [Record.tnf_stored, Record.type_stored, Record.id_stored, Record.payload_stored,
        StoredRecord.build_eq]
    rw [← mapM_storing hstored, PosterDraft.stored]
    cases d.icon <;> rfl
  rw [records, PosterDraft.records, StoredRecord.buildUri_eq]
  apply storing_bind
  intro uri _
  rw [PosterDraft.stored, mapM_storing fun title =>
    StoredRecord.buildTextOrDefault_eq (some title) d.language .utf8 d.current]
  apply storing_bind
  intro title _
  rw [mapM_storing fun action : Action =>
    StoredRecord.buildWellKnown_eq PosterPart.actionType [] [action.code]]
  apply storing_bind
  intro action _
  rw [mapM_storing fun size : UInt32 =>
    StoredRecord.buildWellKnown_eq PosterPart.sizeType [] (Bytes.ofNat 4 size.toNat)]
  apply storing_bind
  intro size _
  rw [mapM_storing buildMediaType_eq]
  apply storing_bind
  intro mediaType _
  change d.stored.icon.mapM _ >>= _ = _
  rw [hicon]
  apply storing_bind
  intro icon _
  simp [storing, pure, Except.pure, Option.toList_map]

namespace StoredRecord

/-- Records behind the icon do not matter. -/
theorem buildSmartPoster_detached (d : StoredDraft) :
  buildSmartPoster { d with icon := d.icon.map detached } = buildSmartPoster d
  := by
  obtain ⟨uri, title, language, current, mediaType, size, action, icon⟩ := d
  cases icon <;> rfl

/-- A draft whose icon is the stored form of a chain is, without the records behind the icon,
the stored form of a draft. -/
theorem exists_stored_draft {d : StoredDraft}
    (h : ∀ i, d.icon = some i → ∃ c : RecordChain, c.stored = i) :
  ∃ e : PosterDraft, e.stored = { d with icon := d.icon.map detached }
  := by
  obtain ⟨uri, title, language, current, mediaType, size, action, icon⟩ := d
  cases icon with
  | none => exact ⟨⟨uri, title, language, current, mediaType, size, action, none⟩, rfl⟩
  | some i =>
    obtain ⟨c, rfl⟩ := h i rfl
    use ⟨uri, title, language, current, mediaType, size, action, some c.record⟩
    simp only [Option.map_some, RecordChain.detached_stored]
    rfl

/-- Putting stored frames behind one another stores the frames that are put behind one
another. -/
theorem foldl_join_map (frames before : List Frame) :
  (frames.map fun f => (Record.ofFrame none f).stored).foldl join
      (before.map fun f => (Record.ofFrame none f).stored)
    = (frames.foldl Frame.join before).map fun f => (Record.ofFrame none f).stored
  := by
  induction frames generalizing before with
  | nil => rfl
  | cons f frames ih =>
    have hjoin : join (before.map fun f => (Record.ofFrame none f).stored)
        (Record.ofFrame none f).stored
          = (Frame.join before f).map fun f => (Record.ofFrame none f).stored := by
      rw [join, Frame.join, List.getLast?_map]
      cases before.getLast? with
      | none => rfl
      | some last =>
        simp only [Option.map_some, List.map_append, List.map_dropLast, Record.clearFlags_stored]
        rfl
    rw [List.map_cons, List.foldl_cons, List.foldl_cons, hjoin, ih]

/-- A stored smart poster is the stored form of the smart poster that is built. -/
theorem buildSmartPoster_eq (d : PosterDraft) :
  buildSmartPoster d.stored = storing Record.stored (Record.buildSmartPoster d)
  := by
  rw [buildSmartPoster, Record.buildSmartPoster, StoredDraft.records_eq]
  apply storing_bind
  intro records hrecords
  obtain ⟨-, -, -, rfl⟩ := PosterDraft.records_eq_ok_iff.mp hrecords
  have hpayload : (((d.frames.map (Record.ofFrame none)).map Record.stored).foldl join []).flatMap
      bytes = (d.frames.foldl Frame.join []).flatMap Frame.bytes := by
    have hjoin := foldl_join_map d.frames []
    rw [List.map_nil] at hjoin
    rw [List.map_map]
    change (List.foldl join [] (d.frames.map fun f => (Record.ofFrame none f).stored)).flatMap bytes
      = _
    rw [hjoin, List.flatMap_map]
    rfl
  rw [hpayload, buildAs_eq, Record.filterMap_frame?_map_ofFrame]

end StoredRecord

end Ndef
