/-!
# Integers of 64 bits

Values hold integers of 64 bits. Calculations are done on unbounded integers, and their results are
then fitted.

## Main definitions

* `toInt64?`: the integer, if it fits
* `nearestInt64`: the nearest integer that fits
-/

namespace VectorScene.Decimal

/-- The integer in 64 bits, if it fits. -/
def toInt64? (i : Int) : Option Int64 :=
  if Int64.minValue.toInt ≤ i ∧ i ≤ Int64.maxValue.toInt then some (Int64.ofInt i) else none

/-- The integer nearest to `i` among those of 64 bits. -/
def nearestInt64 (i : Int) : Int64 :=
  if i < Int64.minValue.toInt then Int64.minValue
  else if Int64.maxValue.toInt < i then Int64.maxValue
  else Int64.ofInt i

/-- An integer of 64 bits fits. -/
theorem toInt64?_toInt (i : Int64) : toInt64? i.toInt = some i := by
  rw [toInt64?, if_pos ⟨Int64.minValue_le_toInt i, Int64.toInt_le i⟩, Int64.ofInt_toInt]

end VectorScene.Decimal
