import Mathlib
import VectorScene.Scene.Vector

/-!
# Colors that are drawn

A color is drawn by scaling a number of the random stream and cutting it to an integer. Floats are
rounded on the way, so that the color of a number below one has 24 bits is a fact about rounding: it
is proved from the bit patterns of floats.

## Main definitions

* `Draws.Lawful`: the numbers of a stream are at least zero and below one
* `Narrow`: a float that is cut to an integer of at most 24 bits

## Main results

* `narrow_round`: rounding does not lead out of the 24 bits
* `Color.ofUnit_le`: the color of a number that is at least zero and below one
-/

namespace VectorScene

/-- The numbers of the stream are at least zero and below one. -/
def Draws.Lawful (draws : Draws) : Prop := ∀ n, 0 ≤ draws.stream n ∧ draws.stream n < 1

namespace Scene

open VectorScene.Geometry
open Float.Model (Format UnpackedFloat totalExponent)
open Float.Model.UnpackedFloat

/-- A float that is below `2 ^ 24`, if it is a number. -/
def Narrow : UnpackedFloat → Prop
  | .infinity _ => False
  | .notANumber | .zero _ => True
  | .finite _ m e _ => e ≤ 24 ∧ m < 2 ^ (24 - e).toNat

/-! ### Bit patterns -/

/-- The digits that are stored follow a leading one. -/
theorem toNat_leading (mantissa : BitVec 52) :
    (1#1 ++ mantissa).toNat = 2 ^ 52 + mantissa.toNat := by
  rw [BitVec.toNat_append, ← Nat.shiftLeft_add_eq_or_of_lt mantissa.isLt]
  rfl

theorem narrow_unpack {sign : Sign} {exponent : BitVec 11} {mantissa : BitVec 52}
    (h : exponent = 0#11 ∨
      exponent.toNat ≤ 1099 ∧ 2 ^ 52 + mantissa.toNat < 2 ^ (1099 - exponent.toNat)) :
    Narrow (unpack .binary64 (packComponents .binary64 sign exponent mantissa)) := by
  have hfinite : exponent ≠ -1#11 := by
    rintro rfl
    rcases h with h | h
    · exact absurd h (by decide)
    · exact absurd h.1 (by decide)
  simp only [unpack, unpackMantissa_packComponents, unpackExponent_packComponents]
  rw [if_neg hfinite]
  split
  · -- the numbers below the normal ones, and zero
    split
    · trivial
    · rename_i hzero _
      have hlt : mantissa.toNat < 2 ^ 52 := mantissa.isLt
      have hexponent : exponent.toNat = 0 := by rw [hzero]; rfl
      refine ⟨?_, ?_⟩
      · show (exponent.toNat : Int) - (1023 + 52) + 1 ≤ 24
        omega
      · show mantissa.toNat < 2 ^ (24 - ((exponent.toNat : Int) - (1023 + 52) + 1)).toNat
        rw [hexponent]
        exact Nat.lt_of_lt_of_le hlt (Nat.pow_le_pow_right (by decide) (by decide))
  · -- the normal numbers, whose leading digit is not stored
    rename_i hnormal
    obtain ⟨hexponent, hmantissa⟩ := h.resolve_left hnormal
    refine ⟨?_, ?_⟩
    · show (exponent.toNat : Int) - (1023 + 52) ≤ 24
      omega
    · show (1#1 ++ mantissa).toNat < 2 ^ (24 - ((exponent.toNat : Int) - (1023 + 52))).toNat
      have hshift :
          (24 - ((exponent.toNat : Int) - (1023 + 52))).toNat = 1099 - exponent.toNat := by
        omega
      rw [toNat_leading, hshift]
      exact hmantissa

/-- Storing a float keeps it below `2 ^ 24`. -/
theorem narrow_store {x : UnpackedFloat} (h : Narrow x) :
    Narrow (unpack .binary64 (pack .binary64 x)) := by
  cases x with
  | infinity _ => exact absurd h id
  | notANumber => exact trivial
  | zero sign => exact narrow_unpack (.inl rfl)
  | finite sign m e hm =>
    obtain ⟨he, hlt⟩ := h
    have hbiased : (e + 1023 + 52).toNat ≤ 1099 := by omega
    have hstored : ¬2 ^ 11 ≤ (e + 1023 + 52).toNat + 1 := by omega
    unfold pack
    show Narrow (unpack .binary64 (if 2 ^ 11 ≤ (e + 1023 + 52).toNat + 1 then _ else
      if m.log2 + 1 = 53 then _ else _))
    rw [if_neg hstored]
    split
    · -- 53 digits, which are stored as a normal number unless the exponent is the least one
      rename_i hlog
      have hlog52 : m.log2 = 52 := by omega
      have hbounds := (Nat.log2_eq_iff (Nat.ne_of_gt hm)).1 hlog52
      refine narrow_unpack ?_
      have hexponent : (BitVec.ofNat 11 (e + 1023 + 52).toNat).toNat = (e + 1023 + 52).toNat := by
        rw [BitVec.toNat_ofNat]
        exact Nat.mod_eq_of_lt (by omega)
      by_cases hzero : (e + 1023 + 52).toNat = 0
      · left
        show BitVec.ofNat 11 (e + 1023 + 52).toNat = 0#11
        rw [hzero]
      · right
        show (BitVec.ofNat 11 (e + 1023 + 52).toNat).toNat ≤ 1099 ∧
          2 ^ 52 + (BitVec.ofNat 52 m).toNat <
            2 ^ (1099 - (BitVec.ofNat 11 (e + 1023 + 52).toNat).toNat)
        have hmantissa : 2 ^ 52 + (BitVec.ofNat 52 m).toNat = m := by
          rw [BitVec.toNat_ofNat]
          omega
        have hshift : 1099 - (e + 1023 + 52).toNat = (24 - e).toNat := by omega
        rw [hexponent, hmantissa, hshift]
        exact ⟨hbiased, hlt⟩
    · -- fewer digits are stored below the normal numbers
      exact narrow_unpack (.inl rfl)

/-! ### Rounding -/

/-- A shift to the right drops digits. -/
theorem mantissa_shiftRight (em : ExtendedMantissa) (n : Nat) :
    (em >>> n).mantissa = em.mantissa / 2 ^ n := by
  show (n.repeat ExtendedMantissa.shiftRightOne em).mantissa = em.mantissa / 2 ^ n
  induction n with
  | zero => exact (Nat.div_one _).symm
  | succ n ih =>
    rw [Nat.repeat, ExtendedMantissa.shiftRightOne, ih, Nat.div_div_eq_div_mul, Nat.pow_succ]

theorem roundedMantissa_le (em : ExtendedMantissa) : em.roundedMantissa ≤ em.mantissa + 1 := by
  obtain ⟨mantissa, roundBit, stickyBit⟩ := em
  cases roundBit <;> cases stickyBit <;>
    simp only [ExtendedMantissa.roundedMantissa, ExtendedMantissa.accuracy,
      Accuracy.roundToNearestEven] <;> omega

/-- The mantissa of a number below `2 ^ 24` is shifted until it has 53 digits, so that at least 29
binary digits behind the point stay. -/
theorem exists_shift {m q : Nat} (hq : 29 ≤ q) (hm : m < 2 ^ (24 + q)) :
    ∃ t, t + 29 ≤ q ∧ shiftToTargetExponent .binary64 m (-(q : Int)) .exact =
      (ExtendedMantissa.ofMantissaAndAccuracy m .exact >>> t, -((q - t : Nat) : Int)) := by
  have hlog : m.log2 < 24 + q := by
    by_cases hzero : m = 0
    · subst hzero
      exact Nat.lt_of_lt_of_le (by decide) (Nat.le_add_right 24 q)
    · exact (Nat.log2_lt hzero).2 hm
  have ht :
      (Format.binary64.targetExponent (totalExponent m (-(q : Int))) - -(q : Int)).toNat + 29 ≤
      q := by
    show (max ((m.log2 : Int) + 1 + -(q : Int) - 53) (-1074) - -(q : Int)).toNat + 29 ≤ q
    omega
  simp only [shiftToTargetExponent, shiftToExponent]
  generalize (Format.binary64.targetExponent (totalExponent m (-(q : Int))) - -(q : Int)).toNat = t
    at ht ⊢
  have hexponent : -(q : Int) + (t : Int) = -((q - t : Nat) : Int) := by omega
  exact ⟨t, ht, by rw [hexponent]⟩

/-- A number up to `2 ^ 24 - 1` is rounded to one that is below `2 ^ 24`: what rounding adds is less
than the room that is left. -/
theorem narrow_round {m k : Nat} (sign : Sign) (hk : 29 ≤ k) (hm : m ≤ (2 ^ 24 - 1) * 2 ^ k) :
    Narrow (roundWithAccuracy .binary64 sign m (-(k : Int)) .exact) := by
  have hpow : ∀ q, 2 ^ (24 + q) = 2 ^ 24 * 2 ^ q := fun q => Nat.pow_add 2 24 q
  -- the first shift, and rounding
  obtain ⟨s, hs, hfirst⟩ := exists_shift hk (m := m) (by
    have hpos := Nat.two_pow_pos k
    have hsplit := hpow k
    omega)
  have hrounded : (ExtendedMantissa.ofMantissaAndAccuracy m .exact >>> s).roundedMantissa <
      2 ^ (24 + (k - s)) := by
    have hle := roundedMantissa_le (ExtendedMantissa.ofMantissaAndAccuracy m .exact >>> s)
    have hmantissa : (ExtendedMantissa.ofMantissaAndAccuracy m .exact).mantissa = m := rfl
    rw [mantissa_shiftRight, hmantissa] at hle
    have hdiv : m / 2 ^ s ≤ (2 ^ 24 - 1) * 2 ^ (k - s) := by
      refine Nat.div_le_of_le_mul (Nat.le_trans hm (Nat.le_of_eq ?_))
      rw [Nat.mul_left_comm, ← Nat.pow_add, Nat.add_sub_cancel' (by omega)]
    have hroom : 2 ^ 29 ≤ 2 ^ (k - s) := Nat.pow_le_pow_right (by decide) (by omega)
    have hsplit := hpow (k - s)
    omega
  -- the second shift, which loses nothing but digits
  obtain ⟨t, ht, hsecond⟩ := exists_shift (by omega) hrounded
  simp only [roundWithAccuracy, hfirst, hsecond]
  split
  · trivial
  · refine ⟨by omega, ?_⟩
    have hshift : (24 - -((k - s - t : Nat) : Int)).toNat = 24 + (k - s) - t := by omega
    rw [mantissa_shiftRight, hshift]
    refine Nat.div_lt_of_lt_mul ?_
    rw [← Nat.pow_add, Nat.add_sub_cancel' (by omega)]
    exact hrounded

/-! ### Cutting to an integer -/

/-- A float below `2 ^ 24` is cut to a color of 24 bits. -/
theorem toUInt32_le_of_narrow {x : UnpackedFloat} (h : Narrow x) : x.toUInt32 ≤ Color.limit := by
  have hcut : (x.toInt 0 (UInt32.size - 1)).toNat < 2 ^ 24 := by
    cases x with
    | infinity _ => exact absurd h id
    | notANumber => decide
    | zero _ => exact Nat.two_pow_pos 24
    | finite sign m e _ =>
      obtain ⟨he, hlt⟩ := h
      cases sign with
      | negative =>
        have hneg : ∀ n : Nat, (-(n : Int)).toNat < 2 ^ 24 := by
          intro n
          omega
        exact hneg _
      | positive =>
        simp only [UnpackedFloat.toInt, roundToInt, decreaseExponent, shiftToExponent, Sign.apply,
          mantissa_shiftRight, Int.toNat_natCast]
        show m <<< (e - 0).toNat / 2 ^ (0 - (e - ((e - 0).toNat : Int))).toNat < 2 ^ 24
        rw [Nat.shiftLeft_eq]
        -- the point is behind the last digit, or before it
        obtain ⟨n, rfl | rfl⟩ := e.eq_nat_or_neg
        · have hleft : ((n : Int) - 0).toNat = n := by omega
          have hright : (0 - ((n : Int) - (n : Int))).toNat = 0 := by omega
          have hroom : (24 - (n : Int)).toNat = 24 - n := by omega
          rw [hleft, hright, Nat.pow_zero, Nat.div_one]
          rw [hroom] at hlt
          calc m * 2 ^ n < 2 ^ (24 - n) * 2 ^ n :=
                Nat.mul_lt_mul_of_pos_right hlt (Nat.two_pow_pos n)
            _ = 2 ^ 24 := by rw [← Nat.pow_add, Nat.sub_add_cancel (by omega)]
        · have hleft : (-(n : Int) - 0).toNat = 0 := by omega
          have hright : (0 - (-(n : Int) - ((0 : Nat) : Int))).toNat = n := by omega
          have hroom : (24 - -(n : Int)).toNat = n + 24 := by omega
          rw [hleft, hright, Nat.pow_zero, Nat.mul_one]
          rw [hroom, Nat.pow_add] at hlt
          exact Nat.div_lt_of_lt_mul hlt
  have hsize : (x.toInt 0 (UInt32.size - 1)).toNat < UInt32.size :=
    Nat.lt_trans hcut (by decide)
  rw [UnpackedFloat.toUInt32, UInt32.ofNatClamp_eq_ofNat _ hsize, UInt32.le_iff_toNat_le,
    UInt32.toNat_ofNat_of_lt' hsize]
  exact Nat.le_of_lt_succ hcut

/-! ### The color of a number -/

/-- What is stored of a number: 53 digits, the first of which is one above the smallest exponent. -/
theorem unpack_finite {b : BitVec 64} {sign : Sign} {m : Nat} {e : Int} {hm : 0 < m}
    (h : unpack .binary64 b = .finite sign m e hm) :
    m < 2 ^ 53 ∧ (2 ^ 52 ≤ m ∨ e = -1074) := by
  have hlt : (@unpackMantissa .binary64 b).toNat < 2 ^ 52 := (@unpackMantissa .binary64 b).isLt
  simp only [unpack] at h
  split at h
  · split at h <;> cases h
  · split at h
    · rename_i hzero
      split at h
      · cases h
      · cases h
        refine ⟨by omega, .inr ?_⟩
        rw [hzero]
        rfl
    · cases h
      rw [toNat_leading]
      exact ⟨by omega, .inl (by omega)⟩

/-- What is known of a number that is at least zero and below one. -/
theorem unit_shape {u : Float} (h : 0 ≤ u) (h' : u < 1) :
    (∃ sign, u.toModel.unpack = .zero sign) ∨
      ∃ (m k : Nat) (hm : 0 < m), u.toModel.unpack = .finite .positive m (-(k : Int)) hm ∧
        53 ≤ k ∧ m < 2 ^ 53 := by
  have hle : UnpackedFloat.le (.zero .positive) u.toModel.unpack = true := of_decide_eq_true h
  have hlt : UnpackedFloat.lt u.toModel.unpack
    (.finite .positive (2 ^ 52) (-52) (Nat.two_pow_pos 52)) = true := of_decide_eq_true h'
  cases hu : u.toModel.unpack with
  | infinity sign =>
    rw [hu] at hle hlt
    cases sign
    · exact absurd hle (by decide)
    · exact absurd hlt (by decide)
  | notANumber =>
    rw [hu] at hle
    exact absurd hle (by decide)
  | zero sign => exact .inl ⟨sign, rfl⟩
  | finite sign m e hm =>
    obtain ⟨hdigits, hfirst⟩ := unpack_finite hu
    rw [hu] at hle hlt
    cases sign with
    | negative => exact absurd hle (by simp [UnpackedFloat.le, UnpackedFloat.compare])
    | positive =>
      right
      have hcompare : (compare e (-52)).then (compare m (2 ^ 52)) = .lt := by
        simpa [UnpackedFloat.lt, UnpackedFloat.compare] using hlt
      have he : e ≤ -53 := by
        rcases Int.lt_trichotomy e (-52) with hlt | rfl | hgt
        · omega
        · -- a mantissa that begins with a zero has the smallest exponent
          have hm52 : m < 2 ^ 52 := Nat.compare_eq_lt.1 hcompare
          rcases hfirst with hfirst | hfirst <;> omega
        · rw [Int.compare_eq_gt.2 hgt] at hcompare
          cases hcompare
      obtain ⟨k, rfl⟩ : ∃ k : Nat, e = -(k : Int) := ⟨(-e).toNat, by omega⟩
      exact ⟨m, k, hm, rfl, by omega, hdigits⟩

/-- Zero times a float is zero or not a number. -/
theorem mul_zero_cases (x : UnpackedFloat) :
    mul .binary64 (.zero .positive) x = .notANumber ∨
      ∃ sign, mul .binary64 (.zero .positive) x = .zero sign := by
  cases x with
  | infinity _ => exact .inl rfl
  | notANumber => exact .inl rfl
  | zero sign => exact .inr ⟨_, rfl⟩
  | finite sign _ _ _ => exact .inr ⟨_, rfl⟩

/-- Adding zero to a float keeps it below `2 ^ 24`. -/
theorem narrow_zero_add {x : UnpackedFloat} (h : Narrow x) (sign : Sign) :
    Narrow (add .binary64 (.zero sign) x) := by
  cases x with
  | infinity _ => exact absurd h id
  | notANumber => trivial
  | zero sign' => cases sign <;> cases sign' <;> trivial
  | finite sign' m e hm => exact h

/-- A number below one is scaled to one that is below `2 ^ 24`. -/
theorem narrow_scale {u : Float} (h : 0 ≤ u) (h' : u < 1) :
    Narrow ((16777215.0 : Float) * u).toModel.unpack := by
  have hunpack : ((16777215.0 : Float) * u).toModel.unpack = unpack .binary64 (pack .binary64
      (mul .binary64 (.finite .positive (16777215 * 2 ^ 29) (-29) (by decide))
        u.toModel.unpack)) := rfl
  rw [hunpack]
  refine narrow_store ?_
  rcases unit_shape h h' with ⟨sign, hu⟩ | ⟨m, k, hm, hu, hk, hlt⟩
  · rw [hu]
    trivial
  · rw [hu]
    have hround : mul .binary64 (.finite .positive (16777215 * 2 ^ 29) (-29) (by decide))
        (.finite .positive m (-(k : Int)) hm) = roundWithAccuracy .binary64 .positive
          (16777215 * 2 ^ 29 * m) (-((k + 29 : Nat) : Int)) .exact := by
      have hexponent : (-29 : Int) + -(k : Int) = -((k + 29 : Nat) : Int) := by omega
      rw [← hexponent]
      rfl
    rw [hround]
    refine narrow_round _ (by omega) ?_
    calc 16777215 * 2 ^ 29 * m ≤ 16777215 * 2 ^ 29 * 2 ^ k := by
          refine Nat.mul_le_mul_left _ (Nat.le_trans (Nat.le_of_lt hlt) ?_)
          exact Nat.pow_le_pow_right (by decide) hk
      _ = (2 ^ 24 - 1) * (2 ^ 29 * 2 ^ k) := Nat.mul_assoc 16777215 (2 ^ 29) (2 ^ k)
      _ = (2 ^ 24 - 1) * 2 ^ (k + 29) := by rw [← Nat.pow_add, Nat.add_comm]

/-- **The color of a number** that is at least zero and below one has 24 bits. -/
theorem Color.ofUnit_le {u : Float} (h : 0 ≤ u) (h' : u < 1) : Color.ofUnit u ≤ Color.limit := by
  -- what is left of the lower end of the scale is zero, or not a number
  have hsum : ∀ x : UnpackedFloat, Narrow (unpack .binary64 (pack .binary64
      (add .binary64 (unpack .binary64 (pack .binary64 (mul .binary64 (.zero .positive) x)))
        ((16777215.0 : Float) * u).toModel.unpack))) := by
    intro x
    refine narrow_store ?_
    rcases mul_zero_cases x with hx | ⟨sign, hx⟩
    · rw [hx]
      trivial
    · rw [hx]
      cases sign
      · exact narrow_zero_add (narrow_scale h h') .negative
      · exact narrow_zero_add (narrow_scale h h') .positive
  exact toUInt32_le_of_narrow (hsum ((1 : Float) - u).toModel.unpack)

end Scene

end VectorScene
