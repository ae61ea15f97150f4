import MockHttp.Numeric.Arithmetic

/-! # Drawing from a range of numbers

A draw is a multiple of `2 ^ (-52)` from zero up to `1 - 2 ^ (-52)`. It is stretched by a scale with
which the largest draw leads from the lower bound to the upper one. The scale is longer than the
range, so it may be infinite where the range is not; such bounds are refused.
-/

namespace MockHttp

namespace Sampler

/-- `1 - 2 ^ (-52)` -/
def topDraw : Binary64 := ⟨false, 0x1FFFFFFFFFFFFE, 1021, by decide⟩

def scale (low high : Binary64) : Binary64.Extended := (high.sub low).divBy topDraw

/-- The bounds that can be drawn between. -/
structure Accepts (low high : Binary64) : Prop where
  ordered : low ≤ high
  finite : (scale low high).finite?.isSome = true

instance (low high : Binary64) : Decidable (Accepts low high) :=
  decidable_of_iff (low ≤ high ∧ (scale low high).finite?.isSome = true)
    ⟨fun h => ⟨h.1, h.2⟩, fun h => ⟨h.1, h.2⟩⟩

end Sampler

end MockHttp
