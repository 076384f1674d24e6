import Treasury.Decimal.Arithmetic
import Mathlib.Algebra.Order.Field.Rat
import Mathlib.Tactic.FieldSimp
import Mathlib.Tactic.Linarith

namespace Treasury.Decimal

def value (d : Decimal) : ℚ := d.units / 10 ^ d.scale

def Fits (q : ℚ) : Prop := ∃ c : Decimal, c.value = q

theorem fits_value (d : Decimal) : Fits d.value := ⟨d, rfl⟩

theorem value_unitsAt {d : Decimal} (wide : d.scale ≤ n) : (d.unitsAt n : ℚ) = d.value * 10 ^ n := by
  have split : (10 : ℚ) ^ n = 10 ^ (n - d.scale) * 10 ^ d.scale := by
    rw [← pow_add, Nat.sub_add_cancel wide]
  have positive : (10 : ℚ) ^ d.scale ≠ 0 := by positivity
  rw [value, unitsAt, Nat.pow_eq, split]
  push_cast
  field_simp

theorem lt_iff_value {a b : Decimal} : a < b ↔ a.value < b.value := by
  have left := value_unitsAt (Nat.le_max_left a.scale b.scale)
  have right := value_unitsAt (Nat.le_max_right a.scale b.scale)
  have positive : (0 : ℚ) < 10 ^ max a.scale b.scale := by positivity
  change a.unitsAt _ < b.unitsAt _ ↔ _
  rw [← Int.cast_lt (R := ℚ), left, right, mul_lt_mul_iff_left₀ positive]

theorem le_iff_value {a b : Decimal} : a ≤ b ↔ a.value ≤ b.value := by
  have left := value_unitsAt (Nat.le_max_left a.scale b.scale)
  have right := value_unitsAt (Nat.le_max_right a.scale b.scale)
  have positive : (0 : ℚ) < 10 ^ max a.scale b.scale := by positivity
  change a.unitsAt _ ≤ b.unitsAt _ ↔ _
  rw [← Int.cast_le (R := ℚ), left, right, mul_le_mul_iff_left₀ positive]

theorem not_lt_iff {a b : Decimal} : ¬ a < b ↔ b ≤ a := by
  rw [lt_iff_value, le_iff_value, not_lt]

theorem not_le_iff {a b : Decimal} : ¬ a ≤ b ↔ b < a := by
  rw [lt_iff_value, le_iff_value, not_le]

@[simp] theorem value_zero : (0 : Decimal).value = 0 := by
  change ((Decimal.zero.units : Int) : ℚ) / 10 ^ 0 = 0
  simp [units, zero]

@[simp] theorem value_one : (1 : Decimal).value = 1 := by
  change ((Decimal.one.units : Int) : ℚ) / 10 ^ 0 = 1
  simp [units, one]

@[simp] theorem units_neg (d : Decimal) : (-d).units = -d.units := by
  change (d.neg).units = _
  cases h : d.negative <;> simp [units, neg, h]

@[simp] theorem scale_neg (d : Decimal) : (-d).scale = d.scale := rfl

@[simp] theorem isZero_neg (d : Decimal) : (-d).isZero = d.isZero := rfl

@[simp] theorem neg_neg (d : Decimal) : - -d = d := by
  change (d.neg).neg = d
  simp [neg]

@[simp] theorem unitsAt_neg (n : Nat) (d : Decimal) : (-d).unitsAt n = -d.unitsAt n := by
  simp [unitsAt]

@[simp] theorem value_neg (d : Decimal) : (-d).value = -d.value := by
  simp [value, neg_div]

theorem isZero_iff_value {d : Decimal} : d.isZero = true ↔ d.value = 0 := by
  have positive : (10 : ℚ) ^ d.scale ≠ 0 := by positivity
  rw [value, div_eq_zero_iff, or_iff_left positive, Int.cast_eq_zero]
  cases h : d.negative <;> simp [units, isZero, h]

theorem not_isZero_of_pos {d : Decimal} (positive : ¬ d ≤ 0) : d.isZero = false := by
  rw [le_iff_value, value_zero, not_le] at positive
  rw [← Bool.not_eq_true, isZero_iff_value]
  exact ne_of_gt positive

theorem roundEven_mul (n d : Nat) (positive : 0 < d) : roundEven (n * d) d = n := by
  unfold roundEven
  simp [Nat.mul_mod_left, Nat.mul_div_cancel _ positive]
  omega

theorem make?_some (negative : Bool) {magnitude scale : Nat} (small : magnitude < 2 ^ 96)
    (short : scale ≤ 28) :
    make? negative magnitude scale = some ⟨negative, magnitude, scale, small, short⟩ := by
  simp only [make?, Nat.pow_eq, small, short, and_self, dite_true]

-- Dropping digits stops at the latest where the amount needs no further digit, and until then
-- every dropped digit is a zero.
theorem narrow_exact (negative : Bool) (exact m s : Nat) (small : m < 2 ^ 96) :
    ∀ dropped scale, s ≤ scale → scale ≤ 28 → exact = m * 10 ^ (dropped + scale - s) →
      ∃ d, narrow negative exact dropped scale = some d ∧ d.negative = negative ∧
        d.magnitude * 10 ^ (dropped + scale - d.scale) = exact ∧ d.scale ≤ scale := by
  intro dropped scale
  induction scale generalizing dropped with
  | zero =>
    intro shorter _ same
    obtain rfl : s = 0 := by omega
    have whole : roundEven exact (10 ^ dropped) = m := by
      rw [same, Nat.add_zero, Nat.sub_zero, roundEven_mul _ _ (by positivity)]
    refine ⟨⟨negative, m, 0, small, by omega⟩, ?_, rfl, by simpa using same.symm, Nat.le_refl _⟩
    rw [narrow, Nat.pow_eq, whole, make?_some negative small (by omega)]
  | succ scale ih =>
    intro shorter short same
    have split : exact = m * 10 ^ (scale + 1 - s) * 10 ^ dropped := by
      rw [same, Nat.mul_assoc, ← Nat.pow_add]
      congr 2
      omega
    have whole : roundEven exact (10 ^ dropped) = m * 10 ^ (scale + 1 - s) := by
      rw [split, roundEven_mul _ _ (by positivity)]
    by_cases fit : m * 10 ^ (scale + 1 - s) < 2 ^ 96
    · refine ⟨⟨negative, m * 10 ^ (scale + 1 - s), scale + 1, fit, short⟩, ?_, rfl, ?_, Nat.le_refl _⟩
      · rw [narrow, Nat.pow_eq, whole, make?_some negative fit short]
      · rw [Nat.add_sub_cancel, ← split]
    · have longer : s ≤ scale := by
        by_contra still
        obtain rfl : s = scale + 1 := by omega
        simp at fit
        omega
      have refused : make? negative (m * 10 ^ (scale + 1 - s)) (scale + 1) = none := by
        simp only [make?, Nat.pow_eq, fit, false_and, dite_false]
      obtain ⟨d, found, sign, amount, within⟩ := ih (dropped + 1) longer (by omega) (by
        rw [same]; congr 2; omega)
      refine ⟨d, ?_, sign, ?_, by omega⟩
      · rw [narrow, Nat.pow_eq, whole, refused]
        exact found
      · rw [← amount]; congr 2; omega

theorem value_eq_magnitude (d : Decimal) :
    d.value = (if d.negative then -1 else 1) * (d.magnitude : ℚ) / 10 ^ d.scale := by
  cases h : d.negative <;> simp [value, units, h]

theorem Fits.digits {exact : Int} {scale : Nat} (fits : Fits (exact / 10 ^ scale)) :
    ∃ m s, m < 2 ^ 96 ∧ s ≤ scale ∧ s ≤ 28 ∧ exact.natAbs = m * 10 ^ (scale - s) := by
  obtain ⟨c, same⟩ := fits
  have cross : c.magnitude * 10 ^ scale = exact.natAbs * 10 ^ c.scale := by
    have powers : (10 : ℚ) ^ c.scale ≠ 0 ∧ (10 : ℚ) ^ scale ≠ 0 := by constructor <;> positivity
    have equal : (c.units : ℚ) * 10 ^ scale = exact * 10 ^ c.scale := by
      rw [value, div_eq_div_iff powers.1 powers.2] at same
      exact same
    have whole : c.units * 10 ^ scale = exact * 10 ^ c.scale := by exact_mod_cast equal
    have absolute := congrArg Int.natAbs whole
    rw [Int.natAbs_mul, Int.natAbs_mul, Int.natAbs_pow, Int.natAbs_pow] at absolute
    have magnitude : c.units.natAbs = c.magnitude := by
      cases h : c.negative <;> simp [units, h]
    rw [magnitude] at absolute
    exact absolute
  rcases Nat.le_total c.scale scale with inside | outside
  · refine ⟨c.magnitude, c.scale, c.magnitude_lt, inside, c.scale_le, ?_⟩
    apply Nat.eq_of_mul_eq_mul_right (show 0 < 10 ^ c.scale by positivity)
    rw [← cross, Nat.mul_assoc, ← Nat.pow_add, Nat.sub_add_cancel inside]
  · refine ⟨exact.natAbs, scale, ?_, Nat.le_refl _, outside.trans c.scale_le, by simp⟩
    have longer : c.magnitude = exact.natAbs * 10 ^ (c.scale - scale) := by
      apply Nat.eq_of_mul_eq_mul_right (show 0 < 10 ^ scale by positivity)
      rw [cross, Nat.mul_assoc, ← Nat.pow_add, Nat.sub_add_cancel outside]
    have bound : c.magnitude < 2 ^ 96 := c.magnitude_lt
    have grows : exact.natAbs * 1 ≤ exact.natAbs * 10 ^ (c.scale - scale) :=
      Nat.mul_le_mul_left _ (Nat.one_le_pow _ _ (by omega))
    omega

theorem ofInt?_exact {exact : Int} {scale : Nat} (short : scale ≤ 28) (fits : Fits (exact / 10 ^ scale)) :
    ∃ d, ofInt? exact scale = some d ∧ d.value = exact / 10 ^ scale := by
  obtain ⟨m, s, small, within, _, amount⟩ := fits.digits
  obtain ⟨d, found, sign, rest, shorter⟩ := narrow_exact (decide (exact < 0)) exact.natAbs m s small
    0 scale within short (by rw [Nat.zero_add]; exact amount)
  refine ⟨d, ?_, ?_⟩
  · have none : scale - 28 = 0 := by omega
    rw [ofInt?, ofWide?, none, Nat.min_eq_left short]
    exact found
  · rw [Nat.zero_add] at rest
    have signed : (exact : ℚ) = (if d.negative then -1 else 1) * (exact.natAbs : ℚ) := by
      rw [sign]
      rcases Int.lt_or_le exact 0 with below | above
      · simp [below, Nat.cast_natAbs, abs_of_neg (Int.cast_lt_zero.mpr below)]
      · simp [not_lt.mpr above, Nat.cast_natAbs, abs_of_nonneg (Int.cast_nonneg above)]
    have power : (10 : ℚ) ^ scale = 10 ^ (scale - d.scale) * 10 ^ d.scale := by
      rw [← pow_add, Nat.sub_add_cancel shorter]
    have wide : (exact.natAbs : ℚ) = d.magnitude * 10 ^ (scale - d.scale) := by exact_mod_cast rest.symm
    have positive : (10 : ℚ) ^ (scale - d.scale) ≠ 0 := by positivity
    rw [value_eq_magnitude, signed, wide, power, ← mul_assoc]
    field_simp

theorem add?_exact {a b : Decimal} (fits : Fits (a.value + b.value)) :
    ∃ c, add? a b = some c ∧ c.value = a.value + b.value := by
  unfold add?
  split
  · rename_i left
    exact ⟨b, rfl, by rw [isZero_iff_value.mp left, zero_add]⟩
  · split
    · rename_i right
      exact ⟨a, rfl, by rw [isZero_iff_value.mp right, add_zero]⟩
    · have wide : (10 : ℚ) ^ max a.scale b.scale ≠ 0 := by positivity
      have sum : ((a.unitsAt (max a.scale b.scale) + b.unitsAt (max a.scale b.scale) : Int) : ℚ) /
          10 ^ max a.scale b.scale = a.value + b.value := by
        push_cast
        rw [value_unitsAt (Nat.le_max_left _ _), value_unitsAt (Nat.le_max_right _ _), ← add_mul,
          mul_div_cancel_right₀ _ wide]
      have short : max a.scale b.scale ≤ 28 := Nat.max_le.mpr ⟨a.scale_le, b.scale_le⟩
      obtain ⟨c, found, amount⟩ := ofInt?_exact short (by rw [sum]; exact fits)
      exact ⟨c, found, amount.trans sum⟩

theorem add_ok {a b c : Decimal} : a.add b = .ok c ↔ add? a b = some c := by
  unfold add
  cases add? a b <;> simp

theorem sub_ok {a b c : Decimal} : a.sub b = .ok c ↔ sub? a b = some c := by
  unfold sub
  cases sub? a b <;> simp

theorem add_exact {a b : Decimal} (fits : Fits (a.value + b.value)) :
    ∃ c, a.add b = .ok c ∧ c.value = a.value + b.value := by
  obtain ⟨c, found, amount⟩ := add?_exact fits
  exact ⟨c, add_ok.mpr found, amount⟩

-- Taking an amount away is adding its opposite, to the last digit of the result.
theorem sub?_eq_add?_neg {a b : Decimal} (nonzero : b.isZero = false) : sub? a b = add? a (-b) := by
  unfold sub? add?
  simp only [nonzero, isZero_neg, scale_neg, unitsAt_neg, Int.sub_eq_add_neg, Bool.false_eq_true,
    if_false]

theorem add_neg_of_sub {a b c : Decimal} (nonzero : b.isZero = false) (taken : a.sub b = .ok c) :
    a.add (-b) = .ok c := by
  rw [add_ok, ← sub?_eq_add?_neg nonzero]
  exact sub_ok.mp taken

theorem sub_exact {a b : Decimal} (fits : Fits (a.value - b.value)) :
    ∃ c, a.sub b = .ok c ∧ c.value = a.value - b.value := by
  cases zero : b.isZero with
  | true =>
    rw [isZero_iff_value.mp zero, sub_zero]
    cases none : a.isZero with
    | true => exact ⟨b, by simp [sub_ok, sub?, zero, none], by
        rw [isZero_iff_value.mp zero, isZero_iff_value.mp none]⟩
    | false => exact ⟨a, by simp [sub_ok, sub?, zero, none], rfl⟩
  | false =>
    rw [sub_eq_add_neg, ← value_neg] at fits
    obtain ⟨c, found, amount⟩ := add?_exact fits
    rw [← sub?_eq_add?_neg zero] at found
    exact ⟨c, sub_ok.mpr found, by rw [amount, value_neg, sub_eq_add_neg]⟩

theorem add_value {a b c : Decimal} (sum : a.add b = .ok c) (fits : Fits (a.value + b.value)) :
    c.value = a.value + b.value := by
  obtain ⟨same, added, amount⟩ := add_exact fits
  cases sum.symm.trans added
  exact amount

theorem sub_value {a b c : Decimal} (rest : a.sub b = .ok c) (fits : Fits (a.value - b.value)) :
    c.value = a.value - b.value := by
  obtain ⟨same, taken, amount⟩ := sub_exact fits
  cases rest.symm.trans taken
  exact amount

theorem sub_self (a : Decimal) : ∃ z, a.sub a = .ok z ∧ z.isZero = true := by
  cases zero : a.isZero with
  | true => exact ⟨a, by simp [sub_ok, sub?, zero], zero⟩
  | false =>
    obtain ⟨z, found, amount⟩ := add?_exact (a := a) (b := -a)
      (by rw [value_neg, add_neg_cancel, ← value_zero]; exact fits_value 0)
    rw [← sub?_eq_add?_neg zero] at found
    exact ⟨z, sub_ok.mpr found, by rw [isZero_iff_value, amount, value_neg, add_neg_cancel]⟩

-- Digits are dropped without a change of sign, so a sum of amounts that are not negative is not
-- negative either, however it is rounded.
theorem lt_zero_iff {d : Decimal} : d < 0 ↔ d.units < 0 := by
  have positive : (0 : ℚ) < 10 ^ d.scale := by positivity
  rw [lt_iff_value, value_zero, value, div_lt_iff₀ positive, zero_mul, Int.cast_lt_zero]

theorem make?_negative {sign : Bool} (made : make? sign m s = some d) : d.negative = sign := by
  unfold make? at made
  split at made
  · cases made
    rfl
  · cases made

theorem narrow_negative {sign : Bool} (narrowed : narrow sign exact dropped s = some d) :
    d.negative = sign := by
  induction s generalizing dropped with
  | zero => exact make?_negative narrowed
  | succ s ih =>
    unfold narrow at narrowed
    split at narrowed
    · rename_i made
      cases narrowed
      exact make?_negative made
    · exact ih narrowed

theorem ofInt?_not_neg {exact : Int} (above : 0 ≤ exact) (made : ofInt? exact s = some d) :
    ¬ d < 0 := by
  have sign := narrow_negative made
  rw [decide_eq_false (Int.not_lt.mpr above)] at sign
  rw [lt_zero_iff, units, sign]
  simp

theorem add_not_neg {a b c : Decimal} (left : ¬ a < 0) (right : ¬ b < 0) (sum : a.add b = .ok c) :
    ¬ c < 0 := by
  rw [add_ok] at sum
  unfold add? at sum
  split at sum
  · cases sum
    exact right
  · split at sum
    · cases sum
      exact left
    · rw [lt_zero_iff, Int.not_lt] at left right
      refine ofInt?_not_neg ?_ sum
      exact Int.add_nonneg (Int.mul_nonneg left (by positivity)) (Int.mul_nonneg right (by positivity))

theorem sub_not_neg {a b c : Decimal} (covered : ¬ a < b) (rest : a.sub b = .ok c) : ¬ c < 0 := by
  rw [sub_ok] at rest
  unfold sub? at rest
  have values := covered
  rw [lt_iff_value, not_lt] at values
  split at rest
  · rename_i nothing
    rw [isZero_iff_value.mp nothing] at values
    cases rest
    split
    · rename_i none
      rw [lt_iff_value, value_zero, isZero_iff_value.mp none]
      exact lt_irrefl 0
    · rw [lt_iff_value, value_zero, value_neg, not_lt]
      linarith
  · split at rest
    · rename_i nothing
      rw [isZero_iff_value.mp nothing] at values
      cases rest
      rw [lt_iff_value, value_zero, not_lt]
      exact values
    · exact ofInt?_not_neg (Int.sub_nonneg_of_le (Int.not_lt.mp covered)) rest

-- Amounts that can be added up one after the other without loss: every partial sum fits.
inductive Sums : ℚ → List Decimal → ℚ → Prop where
  | nil : Sums q [] q
  | cons (fits : Fits (q + d.value)) (rest : Sums (q + d.value) ds total) : Sums q (d :: ds) total

theorem foldlM_exact (sums : Sums q ds total) :
    ∀ start : Decimal, start.value = q → ∃ c, ds.foldlM add start = .ok c ∧ c.value = total := by
  induction sums with
  | nil => exact fun start same => ⟨start, rfl, same⟩
  | cons fits _ ih =>
    intro start same
    subst same
    obtain ⟨next, added, amount⟩ := add_exact fits
    obtain ⟨c, rest, final⟩ := ih next amount
    refine ⟨c, ?_, final⟩
    rw [List.foldlM_cons, added]
    exact rest

theorem sum_exact {ds : List Decimal} (sums : Sums 0 ds total) :
    ∃ c, sum ds = .ok c ∧ c.value = total :=
  foldlM_exact sums 0 value_zero

theorem Sums.append (first : Sums p ds q) (second : Sums q es total) : Sums p (ds ++ es) total := by
  induction first with
  | nil => exact second
  | cons fits _ ih => exact .cons fits (ih second)

-- An amount and its opposite come back to where they started, if the middle fits.
theorem Sums.there_and_back (fits : Fits (q + d.value)) (start : Fits q) : Sums q [d, -d] q := by
  have back : q + d.value + (-d).value = q := by
    rw [value_neg, add_assoc, add_neg_cancel, add_zero]
  refine .cons fits ?_
  have last : Sums (q + d.value) [-d] (q + d.value + (-d).value) := .cons (by rw [back]; exact start) .nil
  rwa [back] at last

theorem Sums.single (d : Decimal) : Sums 0 [d] d.value := by
  refine .cons (by rw [zero_add]; exact fits_value d) ?_
  rw [zero_add]
  exact .nil

theorem Sums.pair (d : Decimal) : Sums 0 [d, -d] 0 :=
  .there_and_back (by rw [zero_add]; exact fits_value d) (value_zero ▸ fits_value 0)

theorem sum_zero {ds : List Decimal} (sums : Sums 0 ds 0) : ∃ z, sum ds = .ok z ∧ z.isZero = true := by
  obtain ⟨z, added, amount⟩ := sum_exact sums
  exact ⟨z, added, isZero_iff_value.mpr amount⟩

end Treasury.Decimal
