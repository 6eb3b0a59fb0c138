import Ndef.Bytes

/-!
# Well-known types

The types of well-known records whose payload is interpreted.
-/

namespace Ndef

/-- A well-known type whose payload is interpreted. -/
inductive WellKnown where
  | uri
  | text
  | smartPoster
deriving DecidableEq

namespace WellKnown

/-- The type name on the wire: `U`, `T` or `Sp`. -/
def type : WellKnown → Bytes
  | uri => [0x55]
  | text => [0x54]
  | smartPoster => [0x53, 0x70]

/-- The well-known type with the given name. -/
def ofType? (type : Bytes) : Option WellKnown :=
  if type = uri.type then some uri
  else if type = text.type then some text
  else if type = smartPoster.type then some smartPoster
  else none

theorem ofType?_eq_some_iff {t : Bytes} {w : WellKnown} :
  ofType? t = some w ↔ t = w.type
  := by
  constructor
  · intro h
    unfold ofType? at h
    split at h
    · cases h; assumption
    · split at h
      · cases h; assumption
      · split at h
        · cases h; assumption
        · cases h
  · rintro rfl
    cases w <;> rfl

end WellKnown

end Ndef
