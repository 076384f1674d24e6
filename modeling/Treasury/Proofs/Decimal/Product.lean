import Treasury.Proofs.Decimal.Whole
import Mathlib.Algebra.Order.Field.Basic
import Mathlib.Tactic.Ring

namespace Treasury.Decimal

variable {a b c d : Decimal}

theorem roundEven_scaled (n d : Nat) {k : Nat} (positive : 0 < k) :
    roundEven (n * k) (d * k) = roundEven n d := by
  have quotient : n * k / (d * k) = n / d := Nat.mul_div_mul_right n d positive
  have rest : n * k % (d * k) = n % d * k := Nat.mul_mod_mul_right k n d
  have above : d * k < 2 * (n % d * k) ↔ d < 2 * (n % d) := by
    rw [← Nat.mul_assoc, Nat.mul_lt_mul_right positive]
  have tie : 2 * (n % d * k) = d * k ↔ 2 * (n % d) = d := by
    rw [← Nat.mul_assoc, Nat.mul_left_inj (Nat.ne_of_gt positive)]
  simp only [roundEven, quotient, rest, above, tie]

theorem roundEven_le_of_le {n m d : Nat} (positive : 0 < d) (below : n ≤ m * d) :
    roundEven n d ≤ m := by
  have split := Nat.div_add_mod n d
  have quotient : n / d ≤ m := (Nat.div_le_iff_le_mul_add_pred positive).mpr (by
    rw [Nat.mul_comm] at below; omega)
  unfold roundEven
  dsimp only
  split
  · rename_i up
    have rest : 0 < n % d := by rcases up with up | up <;> omega
    by_contra beyond
    have same : n / d = m := by omega
    rw [same, Nat.mul_comm] at split
    omega
  · exact quotient

theorem roundEven_eq_zero {n d : Nat} (positive : 0 < d) : roundEven n d = 0 ↔ 2 * n ≤ d := by
  rcases Nat.lt_or_ge n d with below | above
  · have none : n / d = 0 := Nat.div_eq_of_lt below
    have rest : n % d = n := Nat.mod_eq_of_lt below
    unfold roundEven
    dsimp only
    rw [none, rest]
    split <;> omega
  · have some : 1 ≤ n / d := Nat.div_pos above positive
    have kept : 1 ≤ roundEven n d := by
      unfold roundEven
      dsimp only
      split <;> omega
    omega

theorem roundEven_small {n d : Nat} (small : 2 * n < d) : roundEven n d = 0 :=
  (roundEven_eq_zero (by omega)).mpr (Nat.le_of_lt small)

theorem narrow_scaled (negative : Bool) (exact k : Nat) :
    ∀ dropped scale, narrow negative (exact * 10 ^ k) (dropped + k) scale =
      narrow negative exact dropped scale := by
  have kept (dropped : Nat) : roundEven (exact * 10 ^ k) (10 ^ (dropped + k)) =
      roundEven exact (10 ^ dropped) := by
    rw [Nat.pow_add, roundEven_scaled _ _ (by positivity)]
  intro dropped scale
  induction scale generalizing dropped with
  | zero => rw [narrow, narrow, Nat.pow_eq, Nat.pow_eq, kept]
  | succ scale ih =>
    have next := ih (dropped + 1)
    rw [Nat.add_right_comm] at next
    rw [narrow, narrow, Nat.pow_eq, Nat.pow_eq, kept, next]

theorem value_mk {negative : Bool} {m s : Nat} (small : m < Nat.pow 2 96) (short : s ≤ 28) :
    value ⟨negative, m, s, small, short⟩ = (if negative then -1 else 1) * (m : ℚ) / 10 ^ s :=
  value_eq_magnitude _

theorem narrow_plain (negative : Bool) {exact scale : Nat} (small : exact < 2 ^ 96)
    (short : scale ≤ 28) :
    narrow negative exact 0 scale = some ⟨negative, exact, scale, small, short⟩ := by
  cases scale with
  | zero => rw [narrow, Nat.pow_eq, pow_zero, roundEven_one, make?_some negative small short]
  | succ => rw [narrow, Nat.pow_eq, pow_zero, roundEven_one, make?_some negative small short]

theorem narrow_zeros (negative : Bool) (exact k scale : Nat) :
    ∀ j, j ≤ k → scale + j ≤ 28 →
      (narrow negative (exact * 10 ^ k) (k - j) (scale + j)).map value =
        (narrow negative exact 0 scale).map value := by
  intro j
  induction j with
  | zero =>
    intro _ _
    have same := narrow_scaled negative exact k 0 scale
    rw [Nat.zero_add] at same
    rw [Nat.sub_zero, Nat.add_zero, same]
  | succ j ih =>
    intro within short
    have split : exact * 10 ^ k = exact * 10 ^ (j + 1) * 10 ^ (k - (j + 1)) := by
      rw [Nat.mul_assoc, ← Nat.pow_add, Nat.add_sub_cancel' within]
    have whole : roundEven (exact * 10 ^ k) (10 ^ (k - (j + 1))) = exact * 10 ^ (j + 1) := by
      rw [split, roundEven_mul _ _ (by positivity)]
    rw [← Nat.add_assoc] at short ⊢
    rw [narrow, Nat.pow_eq, whole]
    by_cases fit : exact * 10 ^ (j + 1) < 2 ^ 96
    · have grows : exact * 1 ≤ exact * 10 ^ (j + 1) :=
        Nat.mul_le_mul_left _ (Nat.one_le_pow _ _ (by omega))
      have small : exact < 2 ^ 96 := by omega
      have positive : (10 : ℚ) ^ (j + 1) ≠ 0 := by positivity
      have power : (10 : ℚ) ^ (scale + j + 1) = 10 ^ scale * 10 ^ (j + 1) := by
        rw [← pow_add, Nat.add_assoc]
      rw [make?_some negative fit short, narrow_plain negative small (by omega)]
      dsimp only
      rw [Option.map_some, Option.map_some, value_mk, value_mk, power]
      push_cast
      rw [← mul_assoc, mul_div_mul_right _ _ positive]
    · have refused : make? negative (exact * 10 ^ (j + 1)) (scale + j + 1) = none := by
        simp only [make?, Nat.pow_eq, fit, false_and, dite_false]
      have step : k - (j + 1) + 1 = k - j := by omega
      rw [refused, step]
      exact ih (by omega) (by omega)

theorem ofWide?_scaled (negative : Bool) (exact scale k : Nat) :
    (ofWide? negative (exact * 10 ^ k) (scale + k)).map value =
      (ofWide? negative exact scale).map value := by
  unfold ofWide?
  rcases Nat.lt_or_ge scale 28 with short | long
  · have zeros := narrow_zeros negative exact k scale (min (scale + k) 28 - scale) (by omega) (by omega)
    have dropped : k - (min (scale + k) 28 - scale) = scale + k - 28 := by omega
    have kept : scale + (min (scale + k) 28 - scale) = min (scale + k) 28 := by omega
    have plain : scale - 28 = 0 ∧ min scale 28 = scale := by omega
    rw [dropped, kept] at zeros
    rw [plain.1, plain.2, zeros]
  · have dropped : scale + k - 28 = scale - 28 + k := by omega
    have kept : min (scale + k) 28 = min scale 28 := by omega
    rw [dropped, kept, narrow_scaled]

theorem ofWide?_congr (negative : Bool) {m s n t : Nat} (same : m * 10 ^ t = n * 10 ^ s) :
    (ofWide? negative m s).map value = (ofWide? negative n t).map value := by
  have longer {m s n t : Nat} (same : m * 10 ^ t = n * 10 ^ s) (within : s ≤ t) :
      (ofWide? negative m s).map value = (ofWide? negative n t).map value := by
    have digits : n = m * 10 ^ (t - s) := by
      apply Nat.eq_of_mul_eq_mul_right (show 0 < 10 ^ s by positivity)
      rw [← same, Nat.mul_assoc, ← Nat.pow_add, Nat.sub_add_cancel within]
    have scaled := ofWide?_scaled negative m s (t - s)
    rw [← digits, Nat.add_sub_cancel' within] at scaled
    exact scaled.symm
  rcases Nat.le_total s t with within | within
  · exact longer same within
  · exact (longer same.symm within).symm

theorem ofWide?_plain (negative : Bool) {exact scale : Nat} (small : exact < 2 ^ 96)
    (short : scale ≤ 28) : ofWide? negative exact scale = some ⟨negative, exact, scale, small, short⟩ := by
  have plain : scale - 28 = 0 ∧ min scale 28 = scale := by omega
  rw [ofWide?, plain.1, plain.2, narrow_plain negative small short]

theorem abs_value (d : Decimal) : |d.value| = (d.magnitude : ℚ) / 10 ^ d.scale := by
  have positive : (0 : ℚ) < 10 ^ d.scale := by positivity
  rw [value_eq_magnitude, abs_div, abs_mul, Nat.abs_cast, abs_of_pos positive]
  cases d.negative <;> simp

theorem digits_of_abs {m s n t : Nat} (same : (m : ℚ) / 10 ^ s = (n : ℚ) / 10 ^ t) :
    m * 10 ^ t = n * 10 ^ s := by
  have powers : (10 : ℚ) ^ s ≠ 0 ∧ (10 : ℚ) ^ t ≠ 0 := by constructor <;> positivity
  rw [div_eq_div_iff powers.1 powers.2] at same
  exact_mod_cast same

theorem digits_of_value (same : a.value = b.value) :
    a.magnitude * 10 ^ b.scale = b.magnitude * 10 ^ a.scale := by
  apply digits_of_abs
  rw [← abs_value, ← abs_value, same]

theorem negative_of_value (same : a.value = b.value) (something : a.isZero = false) :
    a.negative = b.negative := by
  have sign (d : Decimal) (apart : d.value ≠ 0) : d.negative = true ↔ d.value < 0 := by
    have size : 0 < |d.value| := abs_pos.mpr apart
    rw [abs_value] at size
    rw [value_eq_magnitude, mul_div_assoc]
    cases d.negative with
    | true => simpa using size
    | false => simpa using le_of_lt size
  have apart : a.value ≠ 0 := by
    rw [Ne, ← isZero_iff_value, something]
    exact Bool.false_ne_true
  rw [Bool.eq_iff_iff, sign a apart, sign b (same ▸ apart), same]

theorem isZero_congr (same : a.value = b.value) : a.isZero = b.isZero := by
  rw [Bool.eq_iff_iff, isZero_iff_value, isZero_iff_value, same]

theorem ofWide?_tiny (negative : Bool) {exact scale : Nat} (small : exact < 2 ^ 64)
    (long : 47 < scale) : (ofWide? negative exact scale).map value = some 0 := by
  have dropped : min scale 28 = 27 + 1 := by omega
  have power : 10 ^ 20 ≤ 10 ^ (scale - 28) := Nat.pow_le_pow_right (by omega) (by omega)
  have nothing : roundEven exact (10 ^ (scale - 28)) = 0 := roundEven_small (by omega)
  rw [ofWide?, dropped, narrow, Nat.pow_eq, nothing, make?_some negative (by norm_num) (by norm_num)]
  dsimp only
  rw [Option.map_some, value_mk, Nat.cast_zero, mul_zero, zero_div]

theorem mul?_value (a b : Decimal) : (mul? a b).map value =
    (ofWide? (a.negative != b.negative) (a.magnitude * b.magnitude) (a.scale + b.scale)).map value := by
  unfold mul?
  split
  · rename_i zero
    have nothing : a.magnitude * b.magnitude = 0 := by
      rcases zero with zero | zero <;> simp only [isZero, beq_iff_eq] at zero <;> simp [zero]
    have same : 0 * 10 ^ 0 = 0 * 10 ^ (a.scale + b.scale) := by simp
    rw [nothing, ofWide?_congr _ same, ofWide?_plain _ (by norm_num) (by norm_num)]
    rw [Option.map_some, Option.map_some, value_zero, value_mk, Nat.cast_zero, mul_zero, zero_div]
  · split
    · rename_i tiny
      obtain ⟨left, right, long⟩ := tiny
      have small : a.magnitude * b.magnitude < UInt32.size * UInt32.size := Nat.mul_lt_mul'' left right
      rw [ofWide?_tiny _ small long, Option.map_some, value_zero]
    · rfl

theorem mul?_congr (same : a.value = b.value) (c : Decimal) :
    (mul? a c).map value = (mul? b c).map value := by
  cases zero : a.isZero with
  | true =>
    have other := isZero_congr same
    rw [zero] at other
    simp [mul?, zero, ← other]
  | false =>
    rw [mul?_value, mul?_value, negative_of_value same zero]
    refine ofWide?_congr _ ?_
    rw [pow_add, pow_add]
    calc a.magnitude * c.magnitude * (10 ^ b.scale * 10 ^ c.scale)
        = a.magnitude * 10 ^ b.scale * (c.magnitude * 10 ^ c.scale) := by ring
      _ = b.magnitude * 10 ^ a.scale * (c.magnitude * 10 ^ c.scale) := by rw [digits_of_value same]
      _ = b.magnitude * c.magnitude * (10 ^ a.scale * 10 ^ c.scale) := by ring

theorem mul_ok : a.mul b = .ok c ↔ mul? a b = some c := by
  unfold mul
  cases mul? a b <;> simp

-- The same amount has the same product with a factor, whatever zeros it is written with.
theorem mul_congr (same : a.value = b.value) (made : b.mul c = .ok d) :
    ∃ d', a.mul c = .ok d' ∧ d'.value = d.value := by
  have products := mul?_congr same c
  rw [mul_ok.mp made, Option.map_some, Option.map_eq_some_iff] at products
  obtain ⟨d', found, amount⟩ := products
  exact ⟨d', mul_ok.mpr found, amount⟩

theorem value_mul (a b : Decimal) : a.value * b.value =
    (if (a.negative != b.negative) = true then -1 else 1) * ((a.magnitude * b.magnitude : Nat) : ℚ) /
      10 ^ (a.scale + b.scale) := by
  rw [value_eq_magnitude, value_eq_magnitude, pow_add]
  push_cast
  cases a.negative <;> cases b.negative <;> simp <;> ring

theorem mul_exact (fits : Fits (a.value * b.value)) :
    ∃ c, a.mul b = .ok c ∧ c.value = a.value * b.value := by
  obtain ⟨c, same⟩ := fits
  have digits : a.magnitude * b.magnitude * 10 ^ c.scale = c.magnitude * 10 ^ (a.scale + b.scale) := by
    apply digits_of_abs
    rw [← abs_value, same, abs_mul, abs_value, abs_value, pow_add, div_mul_div_comm]
    push_cast
    rfl
  have product := mul?_value a b
  rw [ofWide?_congr _ digits, ofWide?_plain _ c.magnitude_lt c.scale_le, Option.map_some, value_mk,
    Option.map_eq_some_iff] at product
  obtain ⟨d, found, amount⟩ := product
  refine ⟨d, mul_ok.mpr found, ?_⟩
  have powers : (10 : ℚ) ^ c.scale ≠ 0 ∧ (10 : ℚ) ^ (a.scale + b.scale) ≠ 0 := by
    constructor <;> positivity
  have cross : (c.magnitude : ℚ) * 10 ^ (a.scale + b.scale) =
      ((a.magnitude * b.magnitude : Nat) : ℚ) * 10 ^ c.scale := by exact_mod_cast digits.symm
  rw [amount, value_mul, div_eq_div_iff powers.1 powers.2, mul_assoc, cross, mul_assoc]

theorem value_round (n : Nat) (d : Decimal) : (d.round n).value =
    (if d.negative then -1 else 1) * (roundEven (d.magnitude * 10 ^ n) (10 ^ d.scale) : ℚ) / 10 ^ n := by
  unfold round
  split
  · rename_i short
    have split : d.magnitude * 10 ^ n = d.magnitude * 10 ^ (n - d.scale) * 10 ^ d.scale := by
      rw [Nat.mul_assoc, ← Nat.pow_add, Nat.sub_add_cancel short]
    have power : (10 : ℚ) ^ n = 10 ^ (n - d.scale) * 10 ^ d.scale := by
      rw [← pow_add, Nat.sub_add_cancel short]
    have positive : (10 : ℚ) ^ (n - d.scale) ≠ 0 := by positivity
    rw [split, roundEven_mul _ _ (by positivity), value_eq_magnitude, power]
    push_cast
    field_simp
  · rename_i long
    have power : 10 ^ d.scale = 10 ^ (d.scale - n) * 10 ^ n := by
      rw [← Nat.pow_add, Nat.sub_add_cancel (by omega)]
    rw [value_mk, power, roundEven_scaled _ _ (by positivity), Nat.pow_eq]
    generalize roundEven d.magnitude (10 ^ (d.scale - n)) = m
    by_cases zero : m = 0
    · simp [zero]
    · simp [zero]

theorem round_congr (same : a.value = b.value) (n : Nat) : (a.round n).value = (b.round n).value := by
  rw [value_round, value_round]
  cases zero : a.isZero with
  | true =>
    have other := isZero_congr same
    rw [zero] at other
    simp only [isZero, beq_iff_eq] at zero
    have other : b.magnitude = 0 := by simpa [isZero] using other.symm
    have nothing (k : Nat) : roundEven 0 (10 ^ k) = 0 := roundEven_small (by positivity)
    rw [zero, other, Nat.zero_mul, nothing, nothing, Nat.cast_zero, mul_zero, mul_zero]
  | false =>
    have widened (d : Decimal) (k : Nat) : roundEven (d.magnitude * 10 ^ n) (10 ^ d.scale) =
        roundEven (d.magnitude * 10 ^ k * 10 ^ n) (10 ^ (d.scale + k)) := by
      rw [pow_add, Nat.mul_right_comm, roundEven_scaled _ _ (by positivity)]
    rw [negative_of_value same zero, widened a b.scale, widened b a.scale, digits_of_value same,
      Nat.add_comm]

theorem Whole.round_value (whole : d.Whole n) : (d.round n).value = d.value := by
  have divides := whole_iff.mp whole
  have divides : 10 ^ d.scale ∣ d.magnitude * 10 ^ n := by
    have absolute := Int.natAbs_dvd_natAbs.mpr divides
    rw [Int.natAbs_mul, Int.natAbs_pow, Int.natAbs_pow] at absolute
    have magnitude : d.units.natAbs = d.magnitude := by
      cases h : d.negative <;> simp [units, h]
    rwa [magnitude] at absolute
  obtain ⟨k, digits⟩ := divides
  rw [Nat.mul_comm (10 ^ d.scale)] at digits
  have powers : (10 : ℚ) ^ n ≠ 0 ∧ (10 : ℚ) ^ d.scale ≠ 0 := by constructor <;> positivity
  have cross : (k : ℚ) * 10 ^ d.scale = d.magnitude * 10 ^ n := by exact_mod_cast digits.symm
  rw [value_round, digits, roundEven_mul _ _ (by positivity), value_eq_magnitude,
    div_eq_div_iff powers.1 powers.2, mul_assoc, cross, mul_assoc]

-- Amounts that are not negative can be taken from one another: the difference is no wider than
-- either of them.
theorem narrow_some (negative : Bool) {exact : Nat} :
    ∀ dropped scale, roundEven exact (10 ^ (dropped + scale)) < 2 ^ 96 → scale ≤ 28 →
      ∃ d, narrow negative exact dropped scale = some d := by
  intro dropped scale
  induction scale generalizing dropped with
  | zero =>
    intro small short
    rw [narrow, Nat.pow_eq]
    exact ⟨_, make?_some negative small short⟩
  | succ scale ih =>
    intro small short
    rw [narrow]
    split
    · exact ⟨_, rfl⟩
    · refine ih (dropped + 1) ?_ (by omega)
      rwa [Nat.add_right_comm]

theorem ofInt?_some {exact : Int} {scale : Nat} (short : scale ≤ 28)
    (bounded : exact.natAbs ≤ (2 ^ 96 - 1) * 10 ^ scale) : ∃ d, ofInt? exact scale = some d := by
  have plain : scale - 28 = 0 ∧ min scale 28 = scale := by omega
  have small := roundEven_le_of_le (by positivity) bounded
  rw [ofInt?, ofWide?, plain.1, plain.2]
  refine narrow_some _ 0 scale ?_ short
  rw [Nat.zero_add]
  omega

theorem unitsAt_bounds {s : Nat} (above : ¬ d < 0) :
    0 ≤ d.unitsAt s ∧ d.unitsAt s ≤ ((2 ^ 96 - 1) * 10 ^ s : Nat) := by
  rw [lt_zero_iff, Int.not_lt] at above
  have small : d.magnitude < 2 ^ 96 := d.magnitude_lt
  have digits : d.units ≤ d.magnitude := by
    unfold units
    split <;> omega
  have power : 10 ^ (s - d.scale) ≤ 10 ^ s := Nat.pow_le_pow_right (by omega) (by omega)
  have wide : d.magnitude * 10 ^ (s - d.scale) ≤ (2 ^ 96 - 1) * 10 ^ s :=
    Nat.mul_le_mul (by omega) power
  refine ⟨Int.mul_nonneg above (by positivity), ?_⟩
  calc d.unitsAt s
      ≤ (d.magnitude : Int) * (Nat.pow 10 (s - d.scale) : Int) :=
        Int.mul_le_mul_of_nonneg_right digits (by positivity)
    _ = ((d.magnitude * 10 ^ (s - d.scale) : Nat) : Int) := by push_cast; rfl
    _ ≤ ((2 ^ 96 - 1) * 10 ^ s : Nat) := by exact_mod_cast wide

theorem sub_some (left : ¬ a < 0) (right : ¬ b < 0) : ∃ c, a.sub b = .ok c := by
  suffices made : ∃ c, sub? a b = some c by
    obtain ⟨c, made⟩ := made
    exact ⟨c, sub_ok.mpr made⟩
  unfold sub?
  split
  · exact ⟨_, rfl⟩
  · split
    · exact ⟨_, rfl⟩
    · have first := unitsAt_bounds (s := max a.scale b.scale) left
      have second := unitsAt_bounds (s := max a.scale b.scale) right
      exact ofInt?_some (Nat.max_le.mpr ⟨a.scale_le, b.scale_le⟩) (by omega)

theorem narrow_zero {negative : Bool} {exact : Nat} : ∀ dropped scale, scale ≤ 28 →
    narrow negative exact dropped scale = some d →
    d.negative = negative ∧ (d.magnitude = 0 ↔ 2 * exact ≤ 10 ^ dropped) := by
  have made {dropped scale : Nat}
      (found : make? negative (roundEven exact (10 ^ dropped)) scale = some d) :
      d.negative = negative ∧ (d.magnitude = 0 ↔ 2 * exact ≤ 10 ^ dropped) := by
    unfold make? at found
    split at found
    · cases found
      exact ⟨rfl, roundEven_eq_zero (by positivity)⟩
    · cases found
  intro dropped scale
  induction scale generalizing dropped with
  | zero =>
    intro _ found
    rw [narrow, Nat.pow_eq] at found
    exact made found
  | succ scale ih =>
    intro short found
    rw [narrow, Nat.pow_eq] at found
    split at found
    · rename_i first
      cases found
      exact made first
    · rename_i refused
      have wide : 2 ^ 96 ≤ roundEven exact (10 ^ dropped) := by
        by_contra small
        rw [make?_some negative (Nat.lt_of_not_le small) short] at refused
        cases refused
      have large : 10 * 10 ^ dropped < exact := by
        by_contra small
        have few := roundEven_le_of_le (by positivity) (Nat.le_of_not_lt small)
        omega
      have next := ih (dropped + 1) (by omega) found
      rw [pow_succ] at next
      refine ⟨next.1, next.2.trans ⟨fun _ => ?_, fun _ => ?_⟩⟩ <;> omega

theorem half_digit (exact scale : Nat) :
    (1 : ℚ) / (2 * 10 ^ 28) < exact / 10 ^ scale ↔ ¬ 2 * exact ≤ 10 ^ (scale - 28) := by
  have units : (0 : ℚ) < 10 ^ scale := by positivity
  have cross : (1 : ℚ) * 10 ^ scale < exact * (2 * 10 ^ 28) ↔
      ((10 ^ scale : Nat) : ℚ) < ((2 * exact * 10 ^ 28 : Nat) : ℚ) := by
    push_cast
    constructor <;> intro less <;> linarith
  rw [div_lt_div_iff₀ (by positivity) units, cross, Nat.cast_lt]
  rcases Nat.le_total scale 28 with short | long
  · have none : scale - 28 = 0 := by omega
    have power : 10 ^ scale ≤ 10 ^ 28 := Nat.pow_le_pow_right (by omega) short
    have one : 1 ≤ 10 ^ scale := Nat.one_le_pow _ _ (by omega)
    rw [none]
    omega
  · have power : 10 ^ scale = 10 ^ (scale - 28) * 10 ^ 28 := by
      rw [← Nat.pow_add, Nat.sub_add_cancel long]
    rw [power, Nat.mul_lt_mul_right (by positivity), Nat.not_le]

-- A product is above zero unless half of the last digit that there can be is too much for it.
theorem mul_pos_iff (made : a.mul b = .ok c) : 0 < c ↔ 1 / (2 * 10 ^ 28) < a.value * b.value := by
  have product := mul?_value a b
  rw [mul_ok.mp made, Option.map_some] at product
  obtain ⟨d, found, amount⟩ := Option.map_eq_some_iff.mp product.symm
  obtain ⟨sign, nothing⟩ := narrow_zero _ _ (Nat.min_le_right _ _) found
  have unit : (0 : ℚ) < 10 ^ d.scale := by positivity
  rw [lt_iff_value, value_zero, ← amount, value_eq_magnitude, value_mul, ← sign,
    div_pos_iff_of_pos_right unit]
  generalize a.magnitude * b.magnitude = exact at found nothing ⊢
  generalize a.scale + b.scale = scale at found nothing ⊢
  cases d.negative with
  | true =>
    have below : -1 * (exact : ℚ) / 10 ^ scale ≤ 0 := by
      apply div_nonpos_of_nonpos_of_nonneg <;> [simp; positivity]
    have magnitude : (0 : ℚ) ≤ d.magnitude := by positivity
    have half : (0 : ℚ) < 1 / (2 * 10 ^ 28) := by positivity
    simp only [if_true]
    constructor <;> intro above <;> linarith
  | false =>
    simp only [Bool.false_eq_true, if_false, one_mul]
    rw [half_digit, ← nothing, Nat.cast_pos, Nat.pos_iff_ne_zero]

theorem mul_some (narrow : |a.value * b.value| ≤ 2 ^ 96 - 1) : ∃ c, a.mul b = .ok c := by
  suffices made : ∃ c, mul? a b = some c by
    obtain ⟨c, made⟩ := made
    exact ⟨c, mul_ok.mpr made⟩
  unfold mul?
  split
  · exact ⟨_, rfl⟩
  · split
    · exact ⟨_, rfl⟩
    · have units : (0 : ℚ) < 10 ^ (a.scale + b.scale) := by positivity
      have widest : (2 ^ 96 - 1 : ℚ) = (2 ^ 96 - 1 : Nat) := by norm_num
      rw [abs_mul, abs_value, abs_value, div_mul_div_comm, ← pow_add, div_le_iff₀ units, widest] at narrow
      have exact : a.magnitude * b.magnitude ≤ (2 ^ 96 - 1) * 10 ^ (a.scale + b.scale) := by
        exact_mod_cast narrow
      have small := roundEven_le_of_le (by positivity) exact
      have split : a.scale + b.scale - 28 + min (a.scale + b.scale) 28 = a.scale + b.scale := by omega
      refine narrow_some _ _ _ ?_ (Nat.min_le_right _ _)
      rw [split]
      omega

end Treasury.Decimal
