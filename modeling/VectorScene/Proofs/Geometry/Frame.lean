import Mathlib.Analysis.Real.Sqrt
import Mathlib.Tactic.LinearCombination
import Mathlib.Tactic.NormNum
import Mathlib.Tactic.Linarith
import VectorScene.Geometry.Frame

/-!
# Frames over the reals

With exact arithmetic every direction that is long enough has a frame: three unit vectors, each
orthogonal to the others, that are right-handed. Nothing on the way is divided by zero. What has to
be seen for this is that the helper vector is never parallel to the direction, on the world axes
and within the tolerance of them, on the plane of the first and third axis and close to it.

## Main definitions

* the real numbers as scalars
* `Mat4.IsFrame`: the columns are unit vectors, orthogonal and right-handed

## Main results

* `Frame.cross_helper_norm`: the helper vector is not parallel to the direction
* `Frame.isFrame_of_left`, `Frame.isFrame_ofBasis`: frames of unit vectors
* `Frame.isFrame_ofForward`: the frame of a direction
-/

namespace VectorScene.Geometry

/-- The reals as scalars, with the epsilon of the floats. -/
noncomputable instance : Scalar ℝ where
  sqrt := Real.sqrt
  le a b := decide (a ≤ b)
  epsilon := 1 / 2 ^ 52

theorem le_eq_true {a b : ℝ} : Scalar.le a b = true ↔ a ≤ b := decide_eq_true_iff

theorem isNear_iff {a b : ℝ} :
    isNear a b = true ↔ b - 1 / 10 ^ 7 ≤ a ∧ a ≤ b + 1 / 10 ^ 7 := by
  have htolerance : (tolerance : ℝ) = 1 / 10 ^ 7 := by
    rw [tolerance]
    norm_num
  rw [isNear, Bool.and_eq_true, le_eq_true, le_eq_true, ← htolerance]

theorem isNear_self (a : ℝ) : isNear a a = true := by
  rw [isNear_iff]
  constructor <;> linarith

namespace Vec3

variable {a b : Vec3 ℝ} {k : ℝ}

/-! ### Products and lengths -/

theorem eq_mk {x y z : ℝ} (hx : a.x = x) (hy : a.y = y) (hz : a.z = z) : a = ⟨x, y, z⟩ := by
  rw [← hx, ← hy, ← hz]

theorem dot_eq (a b : Vec3 ℝ) : a.dot b = a.x * b.x + a.y * b.y + a.z * b.z := rfl

theorem cross_eq (a b : Vec3 ℝ) : a.cross b =
    ⟨a.y * b.z - a.z * b.y, a.z * b.x - a.x * b.z, a.x * b.y - a.y * b.x⟩ := rfl

theorem shrink_eq (a : Vec3 ℝ) (k : ℝ) : a.shrink k = ⟨a.x / k, a.y / k, a.z / k⟩ := rfl

theorem dot_self_nonneg (a : Vec3 ℝ) : 0 ≤ a.dot a := by
  rw [dot_eq]
  exact add_nonneg (add_nonneg (mul_self_nonneg _) (mul_self_nonneg _)) (mul_self_nonneg _)

theorem norm_nonneg (a : Vec3 ℝ) : 0 ≤ a.norm := Real.sqrt_nonneg _

theorem norm_sq (a : Vec3 ℝ) : a.norm ^ 2 = a.dot a := Real.sq_sqrt a.dot_self_nonneg

/-- A vector has a length unless all its coordinates are zero. -/
theorem norm_eq_zero : a.norm = 0 ↔ a.x = 0 ∧ a.y = 0 ∧ a.z = 0 := by
  rw [← sq_eq_zero_iff, norm_sq, dot_eq]
  constructor
  · intro h
    have hx := mul_self_nonneg a.x
    have hy := mul_self_nonneg a.y
    have hz := mul_self_nonneg a.z
    refine ⟨mul_self_eq_zero.1 ?_, mul_self_eq_zero.1 ?_, mul_self_eq_zero.1 ?_⟩ <;> linarith
  · rintro ⟨hx, hy, hz⟩
    rw [hx, hy, hz]
    ring

theorem norm_eq_one : a.norm = 1 ↔ a.dot a = 1 := by
  rw [← norm_sq]
  exact (pow_eq_one_iff_of_nonneg a.norm_nonneg two_ne_zero).symm

theorem dot_comm (a b : Vec3 ℝ) : a.dot b = b.dot a := by
  rw [dot_eq, dot_eq]
  ring

theorem dot_shrink (a b : Vec3 ℝ) (k : ℝ) : a.dot (b.shrink k) = a.dot b / k := by
  rw [dot_eq, dot_eq, shrink_eq]
  ring

theorem norm_ne_zero (h : 0 < a.dot a) : a.norm ≠ 0 := by
  intro hzero
  rw [← norm_sq, hzero] at h
  norm_num at h

/-- The coordinates of a vector divided by its length. -/
theorem exists_normalize (h : 0 < a.dot a) : ∃ n : ℝ, 0 < n ∧ n ^ 2 = a.dot a ∧
    a.normalize = ⟨a.x / n, a.y / n, a.z / n⟩ :=
  ⟨a.norm, a.norm_nonneg.lt_of_ne' (norm_ne_zero h), a.norm_sq, rfl⟩

/-- A vector divided by its length is a unit vector. -/
theorem normalize_dot_self (h : a.norm ≠ 0) : a.normalize.dot a.normalize = 1 := by
  unfold normalize
  rw [dot_shrink, dot_comm, dot_shrink, ← norm_sq]
  field_simp

theorem normalize_of_unit (h : a.dot a = 1) : a.normalize = a := by
  unfold normalize
  rw [norm_eq_one.2 h, shrink_eq]
  simp only [div_one]

theorem dot_cross_self (a b : Vec3 ℝ) : a.dot (a.cross b) = 0 := by
  rw [dot_eq, cross_eq]
  ring

theorem dot_cross_other (a b : Vec3 ℝ) : b.dot (a.cross b) = 0 := by
  rw [dot_eq, cross_eq]
  ring

/-- The length of the product of two vectors. -/
theorem cross_dot_cross (a b : Vec3 ℝ) :
    (a.cross b).dot (a.cross b) = a.dot a * b.dot b - a.dot b ^ 2 := by
  simp only [dot_eq, cross_eq]
  ring

/-- The product with a product of two orthogonal unit vectors. -/
theorem cross_cross_self (h : a.dot a = 1) (hab : b.dot a = 0) : a.cross (b.cross a) = b := by
  rw [dot_eq] at h hab
  simp only [cross_eq]
  obtain ⟨bx, by', bz⟩ := b
  simp only [mk.injEq] at hab ⊢
  refine ⟨?_, ?_, ?_⟩
  · linear_combination bx * h - a.x * hab
  · linear_combination by' * h - a.y * hab
  · linear_combination bz * h - a.z * hab

/-- In the other order, the product of two vectors has the same length. -/
theorem cross_norm_comm (a b : Vec3 ℝ) : (b.cross a).norm = (a.cross b).norm := by
  have hdot : (b.cross a).dot (b.cross a) = (a.cross b).dot (a.cross b) := by
    rw [cross_dot_cross, cross_dot_cross, dot_comm b a, mul_comm]
  rw [norm, norm, hdot]

theorem cross_norm_of_x (h : a.y * b.z - a.z * b.y ≠ 0) : (a.cross b).norm ≠ 0 :=
  fun hzero => h (norm_eq_zero.1 hzero).1

theorem cross_norm_of_z (h : a.x * b.y - a.y * b.x ≠ 0) : (a.cross b).norm ≠ 0 :=
  fun hzero => h (norm_eq_zero.1 hzero).2.2

/-- Vectors one of which is a multiple of the other have no product. -/
theorem cross_scale_norm (a : Vec3 ℝ) (k : ℝ) : (a.cross (a.scale k)).norm = 0 := by
  have hscale : a.scale k = ⟨a.x * k, a.y * k, a.z * k⟩ := rfl
  rw [norm_eq_zero, cross_eq, hscale]
  refine ⟨?_, ?_, ?_⟩ <;> ring

theorem isNear_self (a : Vec3 ℝ) : a.isNear a = true := by
  simp only [isNear, Geometry.isNear_self, Bool.and_self]

end Vec3

namespace Frame

open Vec3

/-! ### Directions along an axis -/

theorem nudge_eq : (nudge : ℝ) = -(1 / 10 ^ 6) := by
  rw [nudge]
  norm_num

theorem tilt_eq : (tilt : ℝ) = -(1 / 100) := by
  rw [tilt]
  norm_num

variable {f : Vec3 ℝ}

theorem sq_le_of_isNear {a : ℝ} (h : isNear a 0 = true ∨ isNear a (-0) = true) :
    a ^ 2 ≤ 1 / 10 ^ 14 := by
  rw [neg_zero, or_self, isNear_iff] at h
  have hsq := sq_le_sq' (show -(1 / 10 ^ 7) ≤ a by linarith) (show a ≤ 1 / 10 ^ 7 by linarith)
  linarith

/-- What lies along an axis is close to it in the other two coordinates. -/
theorem sq_le_of_isAlong {axis : Vec3 ℝ} (h : isAlong f axis = true) :
    (axis.x = 0 → f.x ^ 2 ≤ 1 / 10 ^ 14) ∧ (axis.y = 0 → f.y ^ 2 ≤ 1 / 10 ^ 14) ∧
      (axis.z = 0 → f.z ^ 2 ≤ 1 / 10 ^ 14) := by
  have hneg : -axis = ⟨-axis.x, -axis.y, -axis.z⟩ := rfl
  simp only [isAlong, Vec3.isNear, Bool.or_eq_true, Bool.and_eq_true, hneg] at h
  refine ⟨fun hx => sq_le_of_isNear ?_, fun hy => sq_le_of_isNear ?_,
    fun hz => sq_le_of_isNear ?_⟩
  · rw [← hx]
    exact h.imp (·.1.1) (·.1.1)
  · rw [← hy]
    exact h.imp (·.1.2) (·.1.2)
  · rw [← hz]
    exact h.imp (·.2) (·.2)

/-- A unit vector that does not lie along the second axis is not upright. -/
theorem level_pos (hf : f.dot f = 1) (h : isAlong f .axisY = false) : 0 < f.x ^ 2 + f.z ^ 2 := by
  by_contra hnot
  have hx : f.x = 0 := by
    rw [← sq_eq_zero_iff]
    exact le_antisymm (by linarith [sq_nonneg f.z]) (sq_nonneg _)
  have hz : f.z = 0 := by
    rw [← sq_eq_zero_iff]
    exact le_antisymm (by linarith [sq_nonneg f.x]) (sq_nonneg _)
  have hy : f.y = 1 ∨ f.y = -1 := by
    rw [dot_eq, hx, hz] at hf
    exact mul_self_eq_one_iff.1 (by linarith)
  rw [isAlong, Bool.or_eq_false_iff] at h
  rcases hy with hy | hy
  · have haxis : f = axisY := eq_mk hx hy hz
    rw [haxis, Vec3.isNear_self] at h
    cases h.1
  · have haxis : f = -axisY := eq_mk (hx.trans neg_zero.symm) hy (hz.trans neg_zero.symm)
    rw [← haxis, Vec3.isNear_self] at h
    cases h.2

/-! ### The helper vector -/

/-- The three ways in which a direction is flattened. -/
theorem flattened_cases (f : Vec3 ℝ) :
    (isAlong f .axisY = true ∧ flattened f = ⟨-f.x, -f.y, nudge⟩) ∨
      ((isAlong f .axisZ = true ∨ isAlong f .axisX = true) ∧ flattened f = ⟨-f.x, nudge, 0⟩) ∨
      isAlong f .axisY = false ∧ flattened f = ⟨-f.x, 0, -f.z⟩ := by
  have hneg : -f = ⟨-f.x, -f.y, -f.z⟩ := rfl
  unfold flattened
  rw [hneg]
  split
  · rename_i hy
    exact .inl ⟨hy, rfl⟩
  · rename_i hy
    split
    · rename_i hzx
      exact .inr (.inl ⟨by simpa using hzx, rfl⟩)
    · exact .inr (.inr ⟨Bool.eq_false_iff.2 hy, rfl⟩)

/-- The flattened direction is not zero. -/
theorem flattened_dot_pos (hf : f.dot f = 1) : 0 < (flattened f).dot (flattened f) := by
  have hx := mul_self_nonneg f.x
  have hy := mul_self_nonneg f.y
  have hnudge : (0 : ℝ) < nudge * nudge := by
    rw [nudge_eq]
    norm_num
  rcases flattened_cases f with ⟨-, hflat⟩ | ⟨-, hflat⟩ | ⟨hup, hflat⟩
  · rw [hflat, dot_eq]
    linarith
  · rw [hflat, dot_eq]
    linarith
  · have hlevel := level_pos hf hup
    rw [hflat, dot_eq]
    linarith

/-- The helper vector is level, or tilted if the level one is opposite to the direction. -/
theorem helper_cases (hf : f.dot f = 1) {a b c : ℝ} (hflat : flattened f = ⟨a, b, c⟩) :
    ∃ n : ℝ, 0 < n ∧ n ^ 2 = a ^ 2 + b ^ 2 + c ^ 2 ∧
      ((isNear (f.dot ⟨a / n, b / n, c / n⟩) (-1) = false ∧ helper f = ⟨a / n, b / n, c / n⟩) ∨
        isNear (f.dot ⟨a / n, b / n, c / n⟩) (-1) = true ∧ helper f = ⟨a / n, tilt, c / n⟩) := by
  obtain ⟨n, hn, hsq, hlevel⟩ := exists_normalize (flattened_dot_pos hf)
  rw [hflat, dot_eq] at hsq
  refine ⟨n, hn, by linarith, ?_⟩
  have hlevel : (flattened f).normalize = ⟨a / n, b / n, c / n⟩ := by rw [hlevel, hflat]
  unfold helper
  simp only [hlevel]
  split
  · rename_i hnear
    exact .inr ⟨hnear, rfl⟩
  · rename_i hnear
    exact .inl ⟨Bool.eq_false_iff.2 hnear, rfl⟩

/-! ### The helper vector is not parallel -/

theorem sum_sq (hf : f.dot f = 1) : f.x ^ 2 + f.y ^ 2 + f.z ^ 2 = 1 := by
  rw [← hf, dot_eq]
  ring

/-- Close to the second axis, the flattened direction is off the axis by more than the tolerance,
and the tilt by more than that. -/
theorem cross_helper_upright (hf : f.dot f = 1) (h : isAlong f .axisY = true)
    (hflat : flattened f = ⟨-f.x, -f.y, nudge⟩) : (f.cross (helper f)).norm ≠ 0 := by
  have hx : f.x ^ 2 ≤ 1 / 10 ^ 14 := (sq_le_of_isAlong h).1 rfl
  have hz : f.z ^ 2 ≤ 1 / 10 ^ 14 := (sq_le_of_isAlong h).2.2 rfl
  have hsum := sum_sq hf
  rw [nudge_eq] at hflat
  obtain ⟨n, hn, hsq, ⟨-, hhelper⟩ | ⟨-, hhelper⟩⟩ := helper_cases hf hflat
  · refine cross_norm_of_x fun hzero => ?_
    rw [hhelper] at hzero
    have hfactor : f.y * (f.z - 1 / 10 ^ 6) = 0 := by
      field_simp at hzero
      linarith
    rcases mul_eq_zero.1 hfactor with hy | hz'
    · rw [hy] at hsum
      linarith
    · rw [show f.z = 1 / 10 ^ 6 by linarith] at hz
      norm_num at hz
  · refine cross_norm_of_x fun hzero => ?_
    rw [hhelper, tilt_eq] at hzero
    have hsame : f.y / 10 ^ 6 = f.z * n / 100 := by
      field_simp at hzero
      linarith
    have hsquares : f.y ^ 2 / 10 ^ 12 = f.z ^ 2 * n ^ 2 / 10 ^ 4 := by
      linear_combination (f.y / 10 ^ 6 + f.z * n / 100) * hsame
    have hproduct : f.z ^ 2 * n ^ 2 ≤ 1 / 10 ^ 14 * 2 :=
      mul_le_mul hz (by linarith [sq_nonneg f.z]) (sq_nonneg n) (by norm_num)
    linarith

/-- Close to the third axis, the helper vector leaves the plane of the first and third axis, in
which the direction almost lies. -/
theorem cross_helper_forward (hf : f.dot f = 1) (h : isAlong f .axisZ = true)
    (hflat : flattened f = ⟨-f.x, nudge, 0⟩) : (f.cross (helper f)).norm ≠ 0 := by
  have hx : f.x ^ 2 ≤ 1 / 10 ^ 14 := (sq_le_of_isAlong h).1 rfl
  have hy : f.y ^ 2 ≤ 1 / 10 ^ 14 := (sq_le_of_isAlong h).2.1 rfl
  have hsum := sum_sq hf
  have hz : f.z ≠ 0 := by
    intro hz
    rw [hz] at hsum
    linarith
  rw [nudge_eq] at hflat
  obtain ⟨n, hn, -, ⟨-, hhelper⟩ | ⟨-, hhelper⟩⟩ := helper_cases hf hflat
  · refine cross_norm_of_x fun hzero => hz ?_
    rw [hhelper] at hzero
    field_simp at hzero
    linarith
  · refine cross_norm_of_x fun hzero => hz ?_
    rw [hhelper, tilt_eq] at hzero
    field_simp at hzero
    exact (mul_eq_zero.1 (show n * f.z = 0 by linarith)).resolve_left hn.ne'

/-- Close to the first axis, the helper vector is nudged or tilted by more than the tolerance. -/
theorem cross_helper_sideways (hf : f.dot f = 1) (h : isAlong f .axisX = true)
    (hflat : flattened f = ⟨-f.x, nudge, 0⟩) : (f.cross (helper f)).norm ≠ 0 := by
  have hy : f.y ^ 2 ≤ 1 / 10 ^ 14 := (sq_le_of_isAlong h).2.1 rfl
  have hz : f.z ^ 2 ≤ 1 / 10 ^ 14 := (sq_le_of_isAlong h).2.2 rfl
  have hsum := sum_sq hf
  have hx : f.x ≠ 0 := by
    intro hx
    rw [hx] at hsum
    linarith
  rw [nudge_eq] at hflat
  obtain ⟨n, hn, hsq, ⟨-, hhelper⟩ | ⟨-, hhelper⟩⟩ := helper_cases hf hflat
  · refine cross_norm_of_z fun hzero => ?_
    rw [hhelper] at hzero
    have hfactor : f.x * (f.y - 1 / 10 ^ 6) = 0 := by
      field_simp at hzero
      linarith
    have hy' : f.y = 1 / 10 ^ 6 := by linarith [(mul_eq_zero.1 hfactor).resolve_left hx]
    rw [hy'] at hy
    norm_num at hy
  · refine cross_norm_of_z fun hzero => ?_
    rw [hhelper, tilt_eq] at hzero
    have hfactor : f.x * (f.y - n / 100) = 0 := by
      field_simp at hzero
      linarith
    have hsquares : f.y ^ 2 = n ^ 2 / 10 ^ 4 := by
      rw [show f.y = n / 100 by linarith [(mul_eq_zero.1 hfactor).resolve_left hx]]
      ring
    linarith

/-- Elsewhere, the helper vector is level if the direction is not, and tilted by more than the
direction is otherwise. -/
theorem cross_helper_elsewhere (hf : f.dot f = 1) (h : isAlong f .axisY = false)
    (hflat : flattened f = ⟨-f.x, 0, -f.z⟩) : (f.cross (helper f)).norm ≠ 0 := by
  have hsum := sum_sq hf
  have hpos := level_pos hf h
  obtain ⟨n, hn, hsq, hhelper⟩ := helper_cases hf hflat
  have hdot : f.dot ⟨-f.x / n, 0 / n, -f.z / n⟩ = -n := by
    rw [dot_eq]
    field_simp
    linarith
  -- one of the two coordinates that are not upright is not zero
  have hside : ∀ a : ℝ, f.x * a = 0 → f.z * a = 0 → a = 0 := by
    intro a hxa hza
    have hprod : (f.x ^ 2 + f.z ^ 2) * a = 0 := by
      linear_combination f.x * hxa + f.z * hza
    exact (mul_eq_zero.1 hprod).resolve_left hpos.ne'
  intro hzero
  rw [norm_eq_zero, cross_eq] at hzero
  obtain ⟨hfirst, -, hthird⟩ := hzero
  rw [hdot] at hhelper
  rcases hhelper with ⟨hfar, hhelper⟩ | ⟨hnear, hhelper⟩
  · rw [hhelper] at hfirst hthird
    field_simp at hfirst hthird
    have hy : f.y = 0 := hside f.y (by linarith) (by linarith)
    -- a level direction is opposite to its flattened one
    have hone : n = 1 := by
      rw [← pow_eq_one_iff_of_nonneg hn.le two_ne_zero, hsq]
      rw [hy] at hsum
      linarith
    rw [hone, Geometry.isNear_self] at hfar
    cases hfar
  · rw [hhelper, tilt_eq] at hfirst hthird
    field_simp at hfirst hthird
    have hy : f.y - n / 100 = 0 := hside _ (by linarith) (by linarith)
    have hsquares : f.y ^ 2 = n ^ 2 / 10 ^ 4 := by
      rw [show f.y = n / 100 by linarith]
      ring
    rw [isNear_iff] at hnear
    have hlow : (1 - 1 / 10 ^ 7) ^ 2 ≤ n ^ 2 :=
      pow_le_pow_left₀ (by norm_num) (by linarith) 2
    linarith

/-- **The helper vector is not parallel** to the direction. -/
theorem cross_helper_norm (hf : f.dot f = 1) : (f.cross (helper f)).norm ≠ 0 := by
  rcases flattened_cases f with ⟨h, hflat⟩ | ⟨h | h, hflat⟩ | ⟨h, hflat⟩
  · exact cross_helper_upright hf h hflat
  · exact cross_helper_forward hf h hflat
  · exact cross_helper_sideways hf h hflat
  · exact cross_helper_elsewhere hf h hflat

end Frame

/-! ### Frames -/

/-- The columns of a transform are unit vectors, each orthogonal to the others, and right-handed. -/
structure Mat4.IsFrame (m : Mat4 ℝ) : Prop where
  left_norm : m.left.norm = 1
  up_norm : m.up.norm = 1
  forward_norm : m.forward.norm = 1
  left_up : m.left.dot m.up = 0
  up_forward : m.up.dot m.forward = 0
  left_forward : m.left.dot m.forward = 0
  left_cross_up : m.left.cross m.up = m.forward

namespace Frame

open Vec3

variable {f l : Vec3 ℝ}

/-- A unit vector that is orthogonal to the direction makes a frame with it. -/
theorem isFrame_of_left (hf : f.dot f = 1) (hl : l.dot l = 1) (hfl : f.dot l = 0)
    (position : Vec3 ℝ) : (Mat4.ofBasis l (f.cross l) f position).IsFrame where
  left_norm := norm_eq_one.2 hl
  up_norm := norm_eq_one.2 (show (f.cross l).dot (f.cross l) = 1 by
    rw [cross_dot_cross, hf, hl, hfl]
    ring)
  forward_norm := norm_eq_one.2 hf
  left_up := dot_cross_other f l
  up_forward := (dot_comm _ _).trans (dot_cross_self f l)
  left_forward := (dot_comm _ _).trans hfl
  left_cross_up := cross_cross_self hl hfl

/-- The vector that is divided by its length for the left axis. -/
def side {α : Type} [Scalar α] (f : Vec3 α) : Vec3 α :=
  if Scalar.le (f.dot .axisY) 0 then f.cross (helper f) else (helper f).cross f

theorem left_eq (f : Vec3 ℝ) : left f = (side f).normalize := rfl

theorem side_norm (hf : f.dot f = 1) : (side f).norm ≠ 0 := by
  unfold side
  split
  · exact cross_helper_norm hf
  · rw [cross_norm_comm]
    exact cross_helper_norm hf

theorem dot_side (f : Vec3 ℝ) : f.dot (side f) = 0 := by
  unfold side
  split
  · exact dot_cross_self _ _
  · exact dot_cross_other _ _

theorem left_dot_self (hf : f.dot f = 1) : (left f).dot (left f) = 1 :=
  normalize_dot_self (side_norm hf)

theorem dot_left (f : Vec3 ℝ) : f.dot (left f) = 0 := by
  rw [left_eq, Vec3.normalize, dot_shrink, dot_side, zero_div]

/-- The product for the up axis is a unit vector already. -/
theorem cross_left_dot_self (hf : f.dot f = 1) : (f.cross (left f)).dot (f.cross (left f)) = 1 := by
  rw [cross_dot_cross, hf, left_dot_self hf, dot_left]
  ring

theorem up_eq (hf : f.dot f = 1) : up f = f.cross (left f) :=
  normalize_of_unit (cross_left_dot_self hf)

/-- **The frame of a unit vector.** -/
theorem isFrame_ofBasis (hf : f.dot f = 1) (position : Vec3 ℝ) :
    (Mat4.ofBasis (left f) (up f) f position).IsFrame := by
  rw [up_eq hf]
  exact isFrame_of_left hf (left_dot_self hf) (dot_left f) position

/-- **Every direction has a frame**, if it is longer than the epsilon. On the way, the flattened
direction, the vector for the left axis and that for the up axis have a length to be divided by,
and the helper vector is no multiple of the direction. The third column is the direction divided by
its length, the fourth one the position, or the origin if none is given, and the bottom row that of
every transform. -/
theorem isFrame_ofForward (direction : Vec3 ℝ) (position : Option (Vec3 ℝ))
    (h : Scalar.epsilon < direction.norm) :
    (∃ m, ofForward? direction position = some m ∧ m.IsFrame ∧
      m.forward = direction.shrink direction.norm ∧ m.position = position.getD .zero ∧
      m.row3 = ⟨0, 0, 0, 1⟩) ∧
    (flattened direction.normalize).norm ≠ 0 ∧
    (∀ k, helper direction.normalize ≠ direction.normalize.scale k) ∧
    (direction.normalize.cross (helper direction.normalize)).norm ≠ 0 ∧
    ((helper direction.normalize).cross direction.normalize).norm ≠ 0 ∧
    (direction.normalize.cross (left direction.normalize)).norm ≠ 0 := by
  have hepsilon : (0 : ℝ) < Scalar.epsilon := by
    show (0 : ℝ) < 1 / 2 ^ 52
    norm_num
  have hnorm : direction.norm ≠ 0 := (hepsilon.trans h).ne'
  have hlong : Scalar.le direction.norm Scalar.epsilon ≠ true :=
    fun hle => not_lt_of_ge (le_eq_true.1 hle) h
  have hf : direction.normalize.dot direction.normalize = 1 := normalize_dot_self hnorm
  have hcross := cross_helper_norm hf
  refine ⟨⟨_, ?_, isFrame_ofBasis hf (position.getD .zero), rfl, rfl, rfl⟩,
    norm_ne_zero (flattened_dot_pos hf), fun k hk => ?_, hcross, ?_, ?_⟩
  · rw [ofForward?, direction?, normalize?, if_neg hlong]
    rfl
  · rw [hk, cross_scale_norm] at hcross
    exact hcross rfl
  · rw [cross_norm_comm]
    exact hcross
  · rw [norm_eq_one.2 (cross_left_dot_self hf)]
    exact one_ne_zero

/-- A level direction, whose helper vector is tilted. -/
theorem isFrame_ofForward_level :
    (Scalar.epsilon : ℝ) < (⟨3, 0, 4⟩ : Vec3 ℝ).norm ∧
      ∃ m : Mat4 ℝ, ofForward? ⟨3, 0, 4⟩ (some ⟨1, 2, 3⟩) = some m ∧ m.IsFrame ∧
        m.forward = ⟨3 / 5, 0, 4 / 5⟩ ∧ m.position = ⟨1, 2, 3⟩ ∧ m.row3 = ⟨0, 0, 0, 1⟩ := by
  have hnorm : (⟨3, 0, 4⟩ : Vec3 ℝ).norm = 5 := by
    rw [← pow_left_inj₀ (norm_nonneg _) (by norm_num) two_ne_zero, norm_sq, dot_eq]
    norm_num
  have hlong : (Scalar.epsilon : ℝ) < (⟨3, 0, 4⟩ : Vec3 ℝ).norm := by
    rw [hnorm]
    show (1 : ℝ) / 2 ^ 52 < 5
    norm_num
  obtain ⟨⟨m, hm, hframe, hforward, hposition, hrow⟩, -⟩ :=
    isFrame_ofForward ⟨3, 0, 4⟩ (some ⟨1, 2, 3⟩) hlong
  rw [hnorm, shrink_eq, zero_div] at hforward
  exact ⟨hlong, m, hm, hframe, hforward, hposition, hrow⟩

end Frame

end VectorScene.Geometry
