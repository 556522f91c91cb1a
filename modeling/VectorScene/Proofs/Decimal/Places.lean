import Mathlib
import VectorScene.Proofs.Decimal.Shapes

/-!
# Floats that are not whole have places

Seventeen digits tell a float from all others, and no integer lies as near to a float that is not
whole as its shortest digits do. So these digits go beyond the units, and a positional text of them
has a point. The text with one place has a point at any rate.

## Main results

* `Fraction.log10_le`, `Fraction.log10_lt`: the power of the first digit
* `onGrid_seventeen`: a grid of seventeen digits is fine enough
* `shortest_exponent`: the shortest digits of what is not whole
* `render_plain_pointed`, `fixed_one_pointed`: the texts of floats that are not whole, and of all
-/

namespace VectorScene.Decimal

/-! ### The power of the first digit -/

theorem pow_le_of_toDigits {n : Nat} (h : n ≠ 0) :
    10 ^ ((Nat.toDigits 10 n).length - 1) ≤ n := by
  rcases Nat.eq_zero_or_pos ((Nat.toDigits 10 n).length - 1) with hzero | hpos
  · rw [hzero, Nat.pow_zero]
    exact Nat.pos_of_ne_zero h
  · have hlength := Nat.length_toDigits_le_iff (b := 10) (n := n) (by decide) hpos
    have : ¬(Nat.toDigits 10 n).length ≤ (Nat.toDigits 10 n).length - 1 := by omega
    rw [hlength] at this
    omega

theorem lt_pow_toDigits (n : Nat) : n < 10 ^ (Nat.toDigits 10 n).length :=
  (Nat.length_toDigits_le_iff (by decide) Nat.length_toDigits_pos).1 (Nat.le_refl _)

namespace Fraction

variable {x : Fraction}

/-- A positive number is at least the power of its first digit. -/
theorem log10_le (hnum : 0 < x.num) (hden : 0 < x.den) :
    (0 ≤ x.log10 → x.den * 10 ^ x.log10.toNat ≤ x.num) ∧
      (x.log10 < 0 → x.den ≤ x.num * 10 ^ (-x.log10).toNat) := by
  unfold log10
  split
  · rename_i hle
    have hq : x.num / x.den ≠ 0 := Nat.ne_of_gt (Nat.div_pos hle hden)
    have hlength := Nat.length_toDigits_pos (b := 10) (n := x.num / x.den)
    refine ⟨fun _ => ?_, fun h => by omega⟩
    calc x.den * 10 ^ (((Nat.toDigits 10 (x.num / x.den)).length : Int) - 1).toNat
        = x.den * 10 ^ ((Nat.toDigits 10 (x.num / x.den)).length - 1) := by congr 2; omega
      _ ≤ x.den * (x.num / x.den) := Nat.mul_le_mul_left _ (pow_le_of_toDigits hq)
      _ ≤ x.num := Nat.mul_div_le _ _
  · rename_i hlt
    have hlength := Nat.length_toDigits_pos (b := 10) (n := x.den / x.num)
    simp only [Nat.pow_eq]
    split
    · rename_i hle
      refine ⟨fun h => ?_, fun _ => ?_⟩
      · -- one place in front would be a whole number
        have hone : (Nat.toDigits 10 (x.den / x.num)).length - 1 = 0 := by omega
        rw [hone, Nat.pow_zero, Nat.mul_one] at hle
        exact absurd hle hlt
      · have hexponent : (-(1 - ((Nat.toDigits 10 (x.den / x.num)).length : Int))).toNat =
            (Nat.toDigits 10 (x.den / x.num)).length - 1 := by omega
        rw [hexponent]
        exact hle
    · refine ⟨fun h => by omega, fun _ => ?_⟩
      have hplaces := (Nat.div_lt_iff_lt_mul hnum).1 (lt_pow_toDigits (x.den / x.num))
      rw [Int.neg_neg, Int.toNat_natCast, Nat.mul_comm]
      exact Nat.le_of_lt hplaces

/-- The power of the first digit of what lies below a power of ten. -/
theorem log10_lt {n : Nat} (hn : 0 < n) (hden : 0 < x.den) (h : x.num < x.den * 10 ^ n) :
    x.log10 < n := by
  unfold log10
  split
  · have hq : x.num / x.den < 10 ^ n := by
      rw [Nat.div_lt_iff_lt_mul hden, Nat.mul_comm]
      exact h
    have := (Nat.length_toDigits_le_iff (by decide) hn).2 hq
    omega
  · simp only
    have := Nat.length_toDigits_pos (b := 10) (n := x.den / x.num)
    split <;> omega

end Fraction

/-! ### Seventeen digits -/

theorem Interval.contains_of_lt {i : Interval} {x : Fraction} (hlow : i.low * x.den < x.num * i.den)
    (hhigh : x.num * i.den < i.high * x.den) : i.contains x = true := by
  unfold contains
  split <;> simp [hlow, hhigh, Nat.le_of_lt]

theorem Interval.le_of_contains {i : Interval} {x : Fraction} (h : i.contains x = true) :
    i.low * x.den ≤ x.num * i.den ∧ x.num * i.den ≤ i.high * x.den := by
  unfold contains at h
  split at h
  · simpa using h
  · simp only [Bool.and_eq_true, decide_eq_true_eq] at h
    exact ⟨Nat.le_of_lt h.1, Nat.le_of_lt h.2⟩

theorem Fraction.ofBinary_neg (mantissa k : Nat) :
    Fraction.ofBinary mantissa (-k) = ⟨mantissa, 2 ^ k⟩ := by
  unfold ofBinary
  split
  · obtain rfl : k = 0 := by omega
    simp
  · simp

theorem Fraction.ofDecimal_neg (n k : Nat) : Fraction.ofDecimal n (-k) = ⟨n, 10 ^ k⟩ := by
  unfold ofDecimal
  split
  · obtain rfl : k = 0 := by omega
    simp
  · simp

/-- The interval of a magnitude in quarters of its unit. The lower end is at a half of the unit, but
for the least mantissa at a quarter. -/
theorem Interval.ofBinary_neg {mantissa : Nat} (h : 0 < mantissa) (k : Nat) :
    ∃ low, (low + 2 = 4 * mantissa ∨ low + 1 = 4 * mantissa ∧ mantissa = hiddenBit) ∧
      Interval.ofBinary mantissa (-k) =
        ⟨low, 4 * mantissa + 2, 2 ^ (k + 2), mantissa % 2 = 0⟩ := by
  have hexponent : (-k - 2 : Int) = -(k + 2 : Nat) := by omega
  unfold ofBinary
  simp only [hexponent, Fraction.ofBinary_neg]
  refine ⟨_, ?_, rfl⟩
  split
  · rename_i hnarrow
    exact .inr ⟨by omega, hnarrow.1⟩
  · exact .inl (by omega)

/-- One of the two points of a grid around a number is nearer than a half of the number's unit, if
the grid is finer than the unit. The lower one is nearer than a quarter if the other one is not. -/
theorem near_point {mantissa low unit step : Nat}
    (hlow : low + 2 = 4 * mantissa ∨ low + 1 = 4 * mantissa ∧ mantissa = hiddenBit)
    (hlimit : mantissa < 2 ^ 53) (hunit : 0 < unit) (hfine : unit * 10 ^ 16 ≤ mantissa * step) :
    ∃ n, (n = mantissa * step / unit ∨ n = mantissa * step / unit + 1) ∧
      low * step < n * (4 * unit) ∧ n * (4 * unit) < (4 * mantissa + 2) * step := by
  have hdiv := Nat.div_add_mod (mantissa * step) unit
  have hmod := Nat.mod_lt (mantissa * step) hunit
  generalize mantissa * step / unit = below at hdiv ⊢
  generalize mantissa * step % unit = r at hdiv hmod
  have hhigh : (4 * mantissa + 2) * step = 4 * (mantissa * step) + 2 * step := by
    rw [Nat.add_mul, Nat.mul_assoc]
  have hbelow : below * (4 * unit) = 4 * (unit * below) := by
    rw [Nat.mul_comm unit, Nat.mul_left_comm]
  have habove : (below + 1) * (4 * unit) = 4 * (unit * below) + 4 * unit := by
    rw [Nat.add_mul, Nat.one_mul, hbelow]
  have hstep : mantissa * step ≤ 2 ^ 53 * step := Nat.mul_le_mul_right _ (Nat.le_of_lt hlimit)
  rcases hlow with hlow | ⟨hlow, hleast⟩
  · have hlow : low * step + 2 * step = 4 * (mantissa * step) := by
      rw [← Nat.add_mul, hlow, Nat.mul_assoc]
    by_cases hnear : 2 * r < step
    · exact ⟨below, .inl rfl, by omega, by omega⟩
    · exact ⟨below + 1, .inr rfl, by omega, by omega⟩
  · have hlow : low * step + step = 4 * (mantissa * step) := by
      rw [← Nat.mul_assoc, ← hlow, Nat.add_mul, Nat.one_mul]
    have hstep : mantissa * step = 2 ^ 52 * step := by rw [hleast]; rfl
    by_cases hnear : 4 * r < step
    · exact ⟨below, .inl rfl, by omega, by omega⟩
    · exact ⟨below + 1, .inr rfl, by omega, by omega⟩

/-- **A grid of seventeen digits** is fine enough for every number with places. -/
theorem onGrid_seventeen {mantissa : Nat} (hpos : 0 < mantissa) (hlimit : mantissa < 2 ^ 53)
    (k : Nat) :
    (onGrid (.ofBinary mantissa (-k)) (.ofBinary mantissa (-k)) 17).isSome = true := by
  obtain ⟨low, hlow, hinterval⟩ := Interval.ofBinary_neg hpos k
  rw [hinterval, Fraction.ofBinary_neg]
  have hden : 0 < 2 ^ k := Nat.pow_pos (by decide)
  obtain ⟨hlarge, hlittle⟩ := Fraction.log10_le (x := ⟨mantissa, 2 ^ k⟩) hpos hden
  have hsmall : Fraction.log10 ⟨mantissa, 2 ^ k⟩ < (16 : Nat) := by
    refine Fraction.log10_lt (by decide) hden ?_
    calc mantissa < 1 * 10 ^ 16 := by omega
      _ ≤ 2 ^ k * 10 ^ 16 := Nat.mul_le_mul_right _ hden
  unfold onGrid
  generalize Fraction.log10 ⟨mantissa, 2 ^ k⟩ = l at hlarge hlittle hsmall ⊢
  obtain ⟨t, ht⟩ : ∃ t : Nat, l - 17 + 1 = -(t : Int) := ⟨(16 - l).toNat, by omega⟩
  have hfine : 2 ^ k * 10 ^ 16 ≤ mantissa * 10 ^ t := by
    rcases Int.lt_or_le l 0 with hl | hl
    · have hsum : t = (-l).toNat + 16 := by omega
      rw [hsum, Nat.pow_add, ← Nat.mul_assoc]
      exact Nat.mul_le_mul_right _ (hlittle hl)
    · have hsum : 16 = l.toNat + t := by omega
      rw [hsum, Nat.pow_add, ← Nat.mul_assoc]
      exact Nat.mul_le_mul_right _ (hlarge hl)
  obtain ⟨n, hn, hleft, hright⟩ := near_point hlow hlimit hden hfine
  have hshift : (⟨mantissa, 2 ^ k⟩ : Fraction).shift (- -(t : Int)) =
      ⟨mantissa * 10 ^ t, 2 ^ k⟩ := by
    simp [Fraction.shift]
  have hreads : (⟨low, 4 * mantissa + 2, 2 ^ (k + 2), mantissa % 2 = 0⟩ : Interval).contains
      (Fraction.ofDecimal n (-t)) = true := by
    have hquarter : 2 ^ (k + 2) = 4 * 2 ^ k := by rw [Nat.pow_add, Nat.mul_comm]
    rw [Fraction.ofDecimal_neg, hquarter]
    exact Interval.contains_of_lt hleft hright
  -- whichever of the two points it is, the grid has a point
  have hexponent : l - (17 : Nat) + 1 = -t := ht
  simp only [hexponent, hshift]
  rcases hn with rfl | rfl
  · simp only [hreads]
    split <;> simp_all
  · simp only [hreads]
    split <;> simp_all

/-! ### Shortest digits -/

theorem Interval.contains_scaled (i : Interval) {c : Nat} (hc : 0 < c) (n d : Nat) :
    i.contains ⟨n * c, d * c⟩ = i.contains ⟨n, d⟩ := by
  have hle : ∀ a b : Nat, a * c ≤ b * c ↔ a ≤ b := fun a b => Nat.mul_le_mul_right_iff hc
  have hlt : ∀ a b : Nat, a * c < b * c ↔ a < b := fun a b => Nat.mul_lt_mul_right hc
  unfold contains
  simp only [← Nat.mul_assoc, Nat.mul_right_comm _ c, hle, hlt]

/-- A zero at the end is a power of ten. -/
theorem Interval.contains_ofDecimal_succ (i : Interval) (n : Nat) (exponent : Int) :
    i.contains (Fraction.ofDecimal (n * 10) exponent) =
      i.contains (Fraction.ofDecimal n (exponent + 1)) := by
  rcases Int.lt_or_le exponent 0 with hneg | hpos
  · -- the denominator loses a zero
    obtain ⟨k, rfl⟩ : ∃ k : Nat, exponent = -((k + 1 : Nat) : Int) :=
      ⟨(-exponent - 1).toNat, by omega⟩
    have hnext : (-((k + 1 : Nat) : Int) + 1) = -(k : Int) := by omega
    rw [hnext, Fraction.ofDecimal_neg, Fraction.ofDecimal_neg, Nat.pow_succ]
    exact i.contains_scaled (by decide) n (10 ^ k)
  · obtain ⟨k, rfl⟩ : ∃ k : Nat, exponent = k := ⟨exponent.toNat, by omega⟩
    have hsucc : ((k : Int) + 1).toNat = k + 1 := by omega
    have hnext : (0 : Int) ≤ (k : Int) + 1 := by omega
    have hsame : Fraction.ofDecimal (n * 10) k = Fraction.ofDecimal n (k + 1) := by
      simp [Fraction.ofDecimal, hsucc, hnext, Nat.pow_succ', Nat.mul_assoc]
    rw [hsame]

theorem dropZerosAux_contains {i : Interval} {d : Digits}
    (h : i.contains (.ofDecimal d.value d.exponent) = true) (fuel : Nat) :
    i.contains (.ofDecimal (d.dropZerosAux fuel).value (d.dropZerosAux fuel).exponent) = true := by
  induction fuel generalizing d with
  | zero => exact h
  | succ fuel ih =>
    unfold Digits.dropZerosAux
    split
    · rename_i hzero
      refine ih ?_
      have hvalue : d.value / 10 * 10 = d.value := by omega
      rw [← i.contains_ofDecimal_succ, hvalue]
      exact h
    · exact h

/-- The shortest digits of a number with places read back as the number. -/
theorem shortest_contains {mantissa : Nat} (hpos : 0 < mantissa) (hlimit : mantissa < 2 ^ 53)
    (k : Nat) :
    (Interval.ofBinary mantissa (-k)).contains (.ofDecimal (shortest mantissa (-k)).value
      (shortest mantissa (-k)).exponent) = true := by
  unfold shortest
  simp only
  split
  · rename_i d hd
    obtain ⟨count, -, hcount⟩ := List.exists_of_findSome?_eq_some hd
    exact dropZerosAux_contains (onGrid_contains hcount) _
  · rename_i hnone
    -- the last of the grids has a point
    have hlast := List.findSome?_eq_none_iff.1 hnone 16 (by decide)
    rw [Option.isSome_iff_exists.1 (onGrid_seventeen hpos hlimit k) |>.choose_spec] at hlast
    cases hlast

/-- **No integer** reads back as a number that is none. -/
theorem shortest_exponent {mantissa : Nat} (hlimit : mantissa < 2 ^ 53) {k : Nat}
    (hwhole : mantissa % 2 ^ k ≠ 0) : (shortest mantissa (-k)).exponent < 0 := by
  have hpos : 0 < mantissa := Nat.pos_of_ne_zero fun h => hwhole (by simp [h])
  have hcontains := shortest_contains hpos hlimit k
  obtain ⟨low, hlow, hinterval⟩ := Interval.ofBinary_neg hpos k
  rw [hinterval] at hcontains
  generalize shortest mantissa (-k) = d at hcontains ⊢
  rcases Int.lt_or_le d.exponent 0 with hneg | hnonneg
  · exact hneg
  · exfalso
    obtain ⟨hleft, hright⟩ := Interval.le_of_contains hcontains
    unfold Fraction.ofDecimal at hleft hright
    simp only [if_pos hnonneg, Nat.pow_eq] at hleft hright
    generalize d.value * 10 ^ d.exponent.toNat = n at hleft hright
    have hquarter : n * 2 ^ (k + 2) = 4 * (n * 2 ^ k) := by
      rw [Nat.pow_add, ← Nat.mul_assoc, Nat.mul_comm]
    -- the only multiple of four units in the interval is the number itself
    have hsame : n * 2 ^ k = mantissa := by omega
    exact hwhole (by rw [← hsame, Nat.mul_mod_left])

/-! ### Texts with a point -/

/-- A text with a sign, digits, a point, and digits behind it. -/
def IsPointed (text : List Char) : Prop :=
  ∃ (negative : Bool) (whole places : List Char),
    text = (if negative then ['-'] else []) ++ whole ++ '.' :: places ∧
    AreDigits whole ∧ whole ≠ [] ∧ AreDigits places ∧ places ≠ []

/-- The mantissa of a finite float has 53 bits. -/
theorem Binary.mantissa_lt {x : Float} {negative : Bool} {mantissa : Nat} {exponent : Int}
    (h : Binary.ofFloat x = .finite negative mantissa exponent) : mantissa < 2 ^ 53 := by
  unfold ofFloat ofBits at h
  have hfraction := Nat.mod_lt x.toBits.toNat (show 0 < hiddenBit by decide)
  have hbit : hiddenBit + hiddenBit = 2 ^ 53 := by decide
  simp only at h
  split at h
  · split at h <;> cases h
  · split at h <;> cases h <;> omega

/-- **The text with one place.** -/
theorem fixedChars_pointed (n : Nat) : ∃ whole places, fixedChars n 1 = whole ++ '.' :: places ∧
    AreDigits whole ∧ whole ≠ [] ∧ AreDigits places ∧ places ≠ [] := by
  have hlength := Nat.length_toDigits_pos (b := 10) (n := n)
  have hdigits : AreDigits (List.replicate (1 + 1 - (Nat.toDigits 10 n).length) '0'
      ++ Nat.toDigits 10 n) := areDigits_append.2 ⟨areDigits_zeros _, areDigits_toDigits n⟩
  have hpadded : 2 ≤ (List.replicate (1 + 1 - (Nat.toDigits 10 n).length) '0'
      ++ Nat.toDigits 10 n).length := by
    rw [List.length_append, List.length_replicate]
    omega
  unfold fixedChars
  simp only
  generalize List.replicate (1 + 1 - (Nat.toDigits 10 n).length) '0' ++ Nat.toDigits 10 n = padded
    at hdigits hpadded
  refine ⟨_, _, rfl, hdigits.subset (List.take_subset _ _), fun h => ?_,
    hdigits.subset (List.drop_subset _ _), fun h => ?_⟩
  · have := congrArg List.length h
    simp at this
    omega
  · have := congrArg List.length h
    simp at this
    omega

theorem isPointed_signed (negative : Bool) {text whole places : List Char}
    (h : text = whole ++ '.' :: places) (hwhole : AreDigits whole) (hne : whole ≠ [])
    (hplaces : AreDigits places) (hne' : places ≠ []) :
    IsPointed (if negative then '-' :: text else text) :=
  ⟨negative, whole, places, by cases negative <;> simp [h], hwhole, hne, hplaces, hne'⟩

theorem fixed_one_pointed {x : Float} (h : isFinite x = true) : IsPointed (fixed 1 x).toList := by
  unfold isFinite at h
  unfold fixed
  split at h
  · rename_i negative mantissa exponent hbinary
    obtain ⟨whole, places, htext, hparts⟩ :=
      fixedChars_pointed ((Fraction.ofBinary mantissa exponent).shift 1).round
    simp only [hbinary, String.toList_ofList]
    exact isPointed_signed negative htext hparts.1 hparts.2.1 hparts.2.2.1 hparts.2.2.2
  · cases h

/-- **The positional text** of a float that is not whole. -/
theorem render_plain_pointed {x : Float} (h : isFinite x = true) (hwhole : toInt? x = none) :
    IsPointed (Layout.plain.render x).toList := by
  unfold isFinite at h
  unfold toInt? at hwhole
  unfold Layout.render
  split at h
  · rename_i negative mantissa exponent hbinary
    have hmantissa := Binary.mantissa_lt hbinary
    simp only [hbinary, ite_eq_right_iff, reduceCtorEq, imp_false] at hwhole
    -- the unit is a negative power of two, of which the mantissa is no multiple
    have hneg : exponent < 0 := by
      refine Int.lt_of_not_ge fun hnonneg => hwhole ?_
      simp [Fraction.ofBinary, hnonneg, Nat.mod_one]
    obtain ⟨k, rfl⟩ : ∃ k : Nat, exponent = -(k : Int) := ⟨exponent.natAbs, by omega⟩
    rw [Fraction.ofBinary_neg] at hwhole
    have hne : mantissa ≠ 0 := fun hzero => hwhole (by simp [hzero])
    have hexponent := shortest_exponent hmantissa hwhole
    have hdigits : IsWhole (shortest mantissa (-k)).chars := isWhole_toDigits _
    have hleading :
        (shortest mantissa (-k)).leading + 1 < (shortest mantissa (-k)).chars.length := by
      unfold Digits.leading
      omega
    obtain ⟨whole, places, htext, hw, hp, hplaces⟩ := Layout.positionalChars_pointed hdigits
      (leading_of_zero (by rw [if_neg hne])) false
    have hchars : Layout.plain.magnitudeChars mantissa (-k) = whole ++ '.' :: places := by
      unfold Layout.magnitudeChars
      simp only [if_neg hne]
      rw [← pointed_of_ne_nil (hplaces (.inr hleading))]
      exact htext
    simp only [hbinary, String.toList_ofList]
    exact isPointed_signed negative hchars hw.1 hw.ne_nil hp (hplaces (.inr hleading))
  · cases h

end VectorScene.Decimal
