import Mathlib.Tactic.Common
import Ndef.Message
import Ndef.Proofs.Genuine

/-!
# Reachable messages

`Reachable` is every message that comes out of reading, of building, and of taking
messages apart and putting them together, in any order and any number of times.  Every
record of a reachable message is genuine (`Reachable.genuine`), so its fields fit their
length fields.
-/

namespace Ndef

/-- The messages that the operations make.  A copy of a message is the message. -/
inductive Reachable : Message → Prop where
  /-- The message of no bytes. -/
  | empty : Reachable (.single .empty)
  /-- A record built from its parts. -/
  | build {tnf : Tnf} {type : Bytes} {id : Option Bytes} {payload : Bytes} {r : Record}
      (h : Record.build tnf type id payload = .ok r) : Reachable (.single r)
  /-- A well-known record. -/
  | buildWellKnown {type id payload : Bytes} {r : Record}
      (h : Record.buildWellKnown type id payload = .ok r) : Reachable (.single r)
  /-- A record of a media type. -/
  | buildMedia {mediaType : String} {payload : Bytes} {r : Record}
      (h : Record.buildMedia mediaType payload = .ok r) : Reachable (.single r)
  /-- A URI record. -/
  | buildUri {uri : String} {r : Record} (h : Record.buildUri uri = .ok r) :
      Reachable (.single r)
  /-- A text record. -/
  | buildText {t : Text} {r : Record} (h : Record.buildText t = .ok r) : Reachable (.single r)
  /-- A text record whose text or language need not be given. -/
  | buildTextOrDefault {content language : Option String} {encoding : TextEncoding}
      {current : Option Language} {r : Record}
      (h : Record.buildTextOrDefault content language encoding current = .ok r) :
      Reachable (.single r)
  /-- A smart poster whose icon, if it is given, is such a record itself. -/
  | buildSmartPoster {d : PosterDraft} {r : Record}
      (hicon : ∀ i, d.icon = some i → Reachable (.single i))
      (h : Record.buildSmartPoster d = .ok r) : Reachable (.single r)
  /-- The message in a byte string. -/
  | decode {language : Option Language} {b : Bytes} {m : Message}
      (h : Message.decode? language b = some m) : Reachable m
  /-- The messages in an area. -/
  | ofArea {language : Option Language} {s : Bytes} {m : Message}
      (h : Message.ofArea? language s = some m) : Reachable m
  /-- A message behind another one. -/
  | append {m n : Message} (hm : Reachable m) (hn : Reachable n) : Reachable (m.append n)
  /-- The first record alone. -/
  | alone {m : Message} (hm : Reachable m) : Reachable m.alone
  /-- The records after the first. -/
  | following {m n : Message} (hm : Reachable m) (h : m.following? = some n) : Reachable n
  /-- Each record on its own. -/
  | singles {m n : Message} (hm : Reachable m) (h : n ∈ m.singles) : Reachable n
  /-- The first records of messages. -/
  | relink {messages : List Message} {m : Message} (hms : ∀ n ∈ messages, Reachable n)
      (h : Message.relink? messages = some m) : Reachable m
  /-- The icon of the first record. -/
  | icon {m i : Message} (hm : Reachable m) (h : m.icon? = some i) : Reachable i

/-! ### The operations keep genuine records -/

namespace Message

theorem records_eq_of_following? {m n : Message} (h : m.following? = some n) :
  n.records = m.tail
  := ofRecords?_eq_some_iff.mp h

theorem eq_single_of_mem_singles {m n : Message} (h : n ∈ m.singles) :
  ∃ r ∈ m.records, n = single r
  := by
  obtain ⟨r, hr, rfl⟩ := List.mem_map.mp h
  exact ⟨r, hr, rfl⟩

theorem exists_icon_of_icon? {m i : Message} (h : m.icon? = some i) :
  ∃ p f, m.head.content = .smartPoster p ∧ p.icon = some f ∧ i = single (.uninterpreted f)
  := by
  simp only [icon?, Option.bind_eq_bind, Option.bind_eq_some_iff] at h
  obtain ⟨p, hp, f, hf, hi⟩ := h
  refine ⟨p, f, Record.smartPoster?_eq_some_iff.mp hp, hf, ?_⟩
  injection hi with hi
  exact hi.symm

theorem head_mem_records (m : Message) :
  m.head ∈ m.records
  := List.mem_cons_self

theorem forall_mem_single {motive : Record → Prop} {r : Record} (h : motive r) :
  ∀ s ∈ (single r).records, motive s
  := by
  intro s hs
  rw [records_single, List.mem_singleton] at hs
  rw [hs]
  apply h

end Message

/-- Every record of a reachable message is genuine for some display language. -/
theorem Reachable.genuine {m : Message} (h : Reachable m) :
  ∀ r ∈ m.records, ∃ language, r.Genuine language
  := by
  induction h with
  | empty => exact Message.forall_mem_single ⟨none, Record.genuine_empty none⟩
  | build h => exact Message.forall_mem_single ⟨none, Record.genuine_of_build h⟩
  | buildWellKnown h => exact Message.forall_mem_single ⟨none, Record.genuine_of_build h⟩
  | buildMedia h => exact Message.forall_mem_single ⟨none, Record.genuine_of_buildMedia h⟩
  | buildUri h => exact Message.forall_mem_single ⟨none, Record.genuine_of_buildAs h⟩
  | buildText h => exact Message.forall_mem_single ⟨none, Record.genuine_of_buildText h⟩
  | buildTextOrDefault h => exact Message.forall_mem_single ⟨none, Record.genuine_of_buildText h⟩
  | buildSmartPoster _ h =>
    exact Message.forall_mem_single ⟨none, Record.genuine_of_buildSmartPoster h⟩
  | decode h =>
    intro r hr
    exact ⟨_, Message.genuine_of_decode? h hr⟩
  | ofArea h =>
    intro r hr
    exact ⟨_, Message.genuine_of_ofArea? h hr⟩
  | append _ _ ihm ihn =>
    intro r hr
    rw [Message.records_append, List.mem_append] at hr
    rcases hr with hr | hr
    · apply ihm r hr
    · apply ihn r hr
  | alone _ ih =>
    apply Message.forall_mem_single
    apply ih _ (Message.head_mem_records _)
  | following _ h ih =>
    intro r hr
    rw [Message.records_eq_of_following? h] at hr
    apply ih r (List.mem_cons_of_mem _ hr)
  | singles _ h ih =>
    obtain ⟨r, hr, rfl⟩ := Message.eq_single_of_mem_singles h
    apply Message.forall_mem_single
    apply ih r hr
  | relink _ h ih =>
    intro r hr
    rw [Message.relink?, Message.ofRecords?_eq_some_iff] at h
    rw [h] at hr
    obtain ⟨n, hn, rfl⟩ := List.mem_map.mp hr
    apply ih n hn _ n.head_mem_records
  | icon _ h ih =>
    obtain ⟨p, f, hp, hf, rfl⟩ := Message.exists_icon_of_icon? h
    obtain ⟨language, hgenuine⟩ := ih _ (Message.head_mem_records _)
    apply Message.forall_mem_single
    exact ⟨none, (hgenuine.icon hp hf none).1⟩

/-- Type and id of a record that is reachable alone fit their length fields. -/
theorem Reachable.length_lt {r : Record} (h : Reachable (.single r)) :
  r.type.length < 0x100 ∧ (r.id.getD []).length < 0x100
  := by
  obtain ⟨language, hgenuine⟩ := h.genuine r List.mem_cons_self
  rcases hgenuine with rfl | ⟨f, ⟨htype, hid, -⟩, -, rfl⟩
  · decide
  · exact ⟨htype, hid⟩

end Ndef
