/-!
# ASCII case

Comparison of texts up to the case of the letters A to Z; other characters are
compared as they are.
-/

namespace Ndef

/-- Whether two texts agree up to ASCII case. -/
def equalUpToCase (s t : String) : Bool :=
  s.toLower == t.toLower

theorem equalUpToCase_iff {s t : String} :
  equalUpToCase s t = true ↔ s.toLower = t.toLower
  := by
  simp [equalUpToCase]

end Ndef
