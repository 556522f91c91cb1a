import VectorScene.Decimal.Layout
import VectorScene.Decimal.Reading

/-!
# The shape of decimal texts

A number is written as a row of digits without needless zeros in front, or with digits behind a
point, or with an exponent. What is written for a float is of one of these shapes.

## Main definitions

* `IsWhole`: the digits before the point
* `pointed`: digits, and digits behind a point if there are any

## Main results

* `isWhole_toDigits`, `natOfDecimal_toDigits`: the digits of a natural number
* `positionalChars_pointed`, `exponentChars_pointed`: the two kinds of text of a magnitude
* `shortest_value`: the shortest digits are zero for no magnitude but zero
-/

namespace VectorScene.Decimal

/-! ### Digits -/

/-- A row of digits. -/
def AreDigits (row : List Char) : Prop := ∀ c ∈ row, isDigit c = true

/-- The digits before the point: a zero, or digits of which the first is none. -/
def IsWhole (row : List Char) : Prop :=
  AreDigits row ∧ (row = ['0'] ∨ ∃ c rest, row = c :: rest ∧ c ≠ '0')

section AreDigits

variable {row row' : List Char}

@[simp] theorem areDigits_nil : AreDigits [] := by simp [AreDigits]

@[simp] theorem areDigits_cons {c : Char} :
    AreDigits (c :: row) ↔ isDigit c = true ∧ AreDigits row := List.forall_mem_cons

@[simp] theorem areDigits_append : AreDigits (row ++ row') ↔ AreDigits row ∧ AreDigits row' :=
  List.forall_mem_append

theorem AreDigits.subset (h : AreDigits row) (hsubset : row' ⊆ row) : AreDigits row' :=
  fun c hc => h c (hsubset hc)

theorem areDigits_zeros (n : Nat) : AreDigits (List.replicate n '0') := by
  intro c hc
  rw [List.eq_of_mem_replicate hc]
  decide

theorem IsWhole.ne_nil (h : IsWhole row) : row ≠ [] := by
  rcases h.2 with rfl | ⟨c, rest, rfl, -⟩ <;> simp

theorem isWhole_singleton {c : Char} (h : isDigit c = true) : IsWhole [c] := by
  refine ⟨by simpa using h, ?_⟩
  by_cases hzero : c = '0'
  · exact .inl (by rw [hzero])
  · exact .inr ⟨c, [], rfl, hzero⟩

/-- Digits up to what is none. -/
theorem takeWhile_digits (h : AreDigits row) {rest : List Char}
    (hrest : ∀ c ∈ rest.head?, isDigit c = false) : (row ++ rest).takeWhile isDigit = row := by
  rw [List.takeWhile_append_of_pos h]
  cases rest with
  | nil => simp
  | cons c rest => simp [hrest c rfl]

end AreDigits

theorem isDigit_iff {c : Char} : isDigit c = true ↔ c.isDigit = true := by
  simp [isDigit, Char.isDigit, Char.le_def]

theorem areDigits_toDigits (n : Nat) : AreDigits (Nat.toDigits 10 n) := fun c hc =>
  isDigit_iff.2 (Nat.isDigit_of_mem_toDigits (by decide) (by decide) hc)

/-- A number that is not zero starts with a digit that is none. -/
theorem toDigits_start {n : Nat} (h : n ≠ 0) :
    ∃ c rest, Nat.toDigits 10 n = c :: rest ∧ c ≠ '0' := by
  have hchar : ∀ d : Fin 10, d ≠ 0 → Nat.digitChar d ≠ '0' := by decide
  induction n using Nat.strongRecOn with
  | ind n ih =>
    by_cases hn : n < 10
    · rw [Nat.toDigits_of_lt_base hn]
      exact ⟨_, [], rfl, hchar ⟨n, hn⟩ (by simpa [Fin.ext_iff] using h)⟩
    · -- the digits of the quotient stand in front
      rw [Nat.toDigits_of_base_le (by decide) (by omega)]
      obtain ⟨c, rest, hrest, hc⟩ := ih (n / 10) (by omega) (by omega)
      exact ⟨c, rest ++ [Nat.digitChar (n % 10)], by rw [hrest]; rfl, hc⟩

/-- The digits of a natural number. -/
theorem isWhole_toDigits (n : Nat) : IsWhole (Nat.toDigits 10 n) := by
  refine ⟨areDigits_toDigits n, ?_⟩
  by_cases hn : n = 0
  · left
    rw [hn]
    rfl
  · exact .inr (toDigits_start hn)

theorem natOfDecimal_toDigits (n : Nat) : natOfDecimal (Nat.toDigits 10 n) = n := by
  have hvalue : ∀ d : Fin 10, digitValue (Nat.digitChar d) = d := by decide
  induction n using Nat.strongRecOn with
  | ind n ih =>
    by_cases hn : n < 10
    · rw [Nat.toDigits_of_lt_base hn, ← List.nil_append [_], natOfDecimal_append_singleton,
        natOfDecimal_nil]
      simpa using hvalue ⟨n, hn⟩
    · rw [Nat.toDigits_of_base_le (by decide) (by omega), natOfDecimal_append_singleton,
        ih (n / 10) (by omega)]
      have := hvalue ⟨n % 10, by omega⟩
      simp only at this
      omega

/-! ### Shortest digits -/

theorem Fraction.den_ofDecimal_pos (n : Nat) (exponent : Int) :
    0 < (Fraction.ofDecimal n exponent).den := by
  unfold Fraction.ofDecimal
  split
  · exact Nat.one_pos
  · exact Nat.pow_pos (by decide)

theorem Fraction.num_ofBinary_pos {mantissa : Nat} (h : 0 < mantissa) (exponent : Int) :
    0 < (Fraction.ofBinary mantissa exponent).num := by
  unfold Fraction.ofBinary
  split
  · exact Nat.mul_pos h (Nat.pow_pos (by decide))
  · exact h

theorem Fraction.ofDecimal_zero (exponent : Int) : (Fraction.ofDecimal 0 exponent).num = 0 := by
  unfold Fraction.ofDecimal
  split <;> simp

/-- The interval of a magnitude that is not zero lies above zero. -/
theorem Interval.low_ofBinary_pos {mantissa : Nat} (h : mantissa ≠ 0) (exponent : Int) :
    0 < (Interval.ofBinary mantissa exponent).low := by
  unfold Interval.ofBinary
  exact Fraction.num_ofBinary_pos (by split <;> omega) _

theorem Interval.num_pos {i : Interval} {x : Fraction} (hlow : 0 < i.low) (hden : 0 < x.den)
    (h : i.contains x = true) : 0 < x.num := by
  have hleft : 0 < i.low * x.den := Nat.mul_pos hlow hden
  have hright : 0 < x.num * i.den := by
    unfold contains at h
    split at h <;> simp only [Bool.and_eq_true, decide_eq_true_eq] at h <;> omega
  exact Nat.pos_of_mul_pos_right hright

theorem Fraction.round_eq (x : Fraction) :
    x.round = x.num / x.den ∨ x.round = x.num / x.den + 1 := by
  unfold round
  simp only
  split
  · exact .inl rfl
  · split
    · exact .inr rfl
    · split
      · exact .inl rfl
      · exact .inr rfl

/-- A point of the grid reads back as the float. -/
theorem onGrid_contains {x : Fraction} {i : Interval} {count : Nat} {d : Digits}
    (h : onGrid x i count = some d) :
    i.contains (Fraction.ofDecimal d.value d.exponent) = true := by
  unfold onGrid at h
  simp only at h
  split at h
  · rename_i hbelow habove
    obtain rfl := Option.some.inj h
    rcases Fraction.round_eq (x.shift (-(x.log10 - count + 1))) with hround | hround
    · simpa only [hround] using hbelow
    · simpa only [hround] using habove
  · rename_i hbelow _
    obtain rfl := Option.some.inj h
    exact hbelow
  · rename_i _ habove
    obtain rfl := Option.some.inj h
    exact habove
  · cases h

theorem dropZerosAux_value {d : Digits} (h : d.value ≠ 0) (fuel : Nat) :
    (d.dropZerosAux fuel).value ≠ 0 := by
  induction fuel generalizing d with
  | zero => exact h
  | succ fuel ih =>
    unfold Digits.dropZerosAux
    split
    · exact ih (by simp only; omega)
    · exact h

/-- **The shortest digits** are zero for no magnitude but zero. -/
theorem shortest_value {mantissa : Nat} (h : mantissa ≠ 0) (exponent : Int) :
    (shortest mantissa exponent).value ≠ 0 ∨ shortest mantissa exponent = ⟨0, 0⟩ := by
  unfold shortest
  simp only
  split
  · rename_i d hd
    left
    obtain ⟨count, -, hcount⟩ := List.exists_of_findSome?_eq_some hd
    have hpos := Interval.num_pos (Interval.low_ofBinary_pos h exponent)
      (Fraction.den_ofDecimal_pos _ _) (onGrid_contains hcount)
    refine dropZerosAux_value (fun hzero => ?_) _
    rw [hzero, Fraction.ofDecimal_zero] at hpos
    exact Nat.lt_irrefl 0 hpos
  · exact .inr rfl

/-! ### Texts of magnitudes -/

/-- Digits, with more of them behind a point if there are any. -/
def pointed (whole places : List Char) : List Char :=
  whole ++ if places.isEmpty then [] else '.' :: places

@[simp] theorem pointed_nil (whole : List Char) : pointed whole [] = whole := by simp [pointed]

theorem pointed_of_ne_nil {places : List Char} (h : places ≠ []) (whole : List Char) :
    pointed whole places = whole ++ '.' :: places := by simp [pointed, h]

namespace Layout

/-- **Positional text** is pointed. It has places if the layout wants one or if there are digits
behind the units. -/
theorem positionalChars_pointed {digits : List Char} {leading : Int} (h : IsWhole digits)
    (hzero : digits = ['0'] → leading ≤ 0) (wholePlace : Bool) :
    ∃ whole places, positionalChars wholePlace digits leading = pointed whole places ∧
      IsWhole whole ∧ AreDigits places ∧
      (wholePlace = true ∨ leading + 1 < digits.length → places ≠ []) := by
  unfold positionalChars
  split
  · -- zeros and the digits behind the point
    have hne : List.replicate (-leading - 1).toNat '0' ++ digits ≠ [] := by simp [h.ne_nil]
    refine ⟨['0'], _, ?_, isWhole_singleton (by decide), ?_, fun _ => hne⟩
    · rw [pointed_of_ne_nil hne]
      rfl
    · exact areDigits_append.2 ⟨areDigits_zeros _, h.1⟩
  · rename_i hleading
    simp only
    have hwhole : IsWhole (digits.take (leading.toNat + 1)
        ++ List.replicate (leading.toNat + 1 - digits.length) '0') := by
      refine ⟨areDigits_append.2 ⟨h.1.subset (List.take_subset _ _), areDigits_zeros _⟩, ?_⟩
      rcases h.2 with hdigits | ⟨c, rest, hdigits, hc⟩
      · have hfirst : leading.toNat = 0 := by have := hzero hdigits; omega
        exact .inl (by simp [hfirst, hdigits])
      · exact .inr ⟨c, _, by rw [hdigits, List.take_succ_cons, List.cons_append], hc⟩
    split
    · rename_i hback
      split
      · exact ⟨_, ['0'], (pointed_of_ne_nil (by decide) _).symm, hwhole,
          (isWhole_singleton (by decide)).1, fun _ => by decide⟩
      · rename_i hplace
        refine ⟨_, [], (pointed_nil _).symm, hwhole, areDigits_nil, fun hor => ?_⟩
        have hlength : digits.length ≤ leading.toNat + 1 := by simpa using hback
        rcases hor with hor | hor
        · exact absurd hor hplace
        · omega
    · rename_i hback
      have hne : digits.drop (leading.toNat + 1) ≠ [] := by simpa using hback
      exact ⟨_, _, (pointed_of_ne_nil hne _).symm, hwhole, h.1.subset (List.drop_subset _ _),
        fun _ => hne⟩

/-- **Text with an exponent** is pointed in front of it. -/
theorem exponentChars_pointed {digits : List Char} (h : IsWhole digits) (leading : Int) :
    ∃ whole places, exponentChars true digits leading = pointed whole places ++ 'e' ::
        (if leading < 0 then '-' else '+') :: Nat.toDigits 10 leading.natAbs ∧
      IsWhole whole ∧ AreDigits places := by
  have hmark : (if leading < 0 then ['e', '-'] else ['e', '+'])
      = ['e', if leading < 0 then '-' else '+'] := by split <;> rfl
  unfold exponentChars
  simp only [if_true, hmark]
  match digits, h with
  | [], h => exact absurd rfl h.ne_nil
  | [first], h =>
    exact ⟨[first], [], by simp, isWhole_singleton (by simpa using h.1), areDigits_nil⟩
  | first :: second :: rest, h =>
    obtain ⟨hfirst, hrest⟩ := areDigits_cons.1 h.1
    exact ⟨[first], second :: rest, by simp [pointed], isWhole_singleton hfirst, hrest⟩

end Layout

/-- The digits of a magnitude, of which the zero stands for no more than units. -/
theorem leading_of_zero {mantissa : Nat} {exponent : Int} {d : Digits}
    (hd : d = if mantissa = 0 then ⟨0, 0⟩ else shortest mantissa exponent)
    (hzero : d.chars = ['0']) : d.leading ≤ 0 := by
  have hvalue : d.value = 0 := by
    rw [← natOfDecimal_toDigits d.value, ← Digits.chars, hzero]
    rfl
  have hd0 : d = ⟨0, 0⟩ := by
    split at hd
    · exact hd
    · rename_i hm
      rcases shortest_value hm exponent with hne | heq
      · exact absurd (hd ▸ hvalue) hne
      · rw [hd, heq]
  rw [hd0]
  decide

end VectorScene.Decimal
