import Treasury.Money
import Treasury.Proofs.Decimal.Value

namespace Treasury

namespace Decimal

def Whole (n : Nat) (d : Decimal) : Prop := ∃ k : Int, d.value = k / 10 ^ n

variable {n : Nat} {a b c d : Decimal}

theorem whole_iff : d.Whole n ↔ (10 ^ d.scale : Int) ∣ d.units * 10 ^ n := by
  have powers : (10 : ℚ) ^ d.scale ≠ 0 ∧ (10 : ℚ) ^ n ≠ 0 := by constructor <;> positivity
  constructor
  · intro whole
    obtain ⟨k, same⟩ := whole
    rw [value, div_eq_div_iff powers.1 powers.2] at same
    refine ⟨k, ?_⟩
    rw [mul_comm _ k]
    exact_mod_cast same
  · intro divides
    obtain ⟨k, same⟩ := divides
    refine ⟨k, ?_⟩
    rw [value, div_eq_div_iff powers.1 powers.2, mul_comm (k : ℚ)]
    exact_mod_cast same

instance (n : Nat) (d : Decimal) : Decidable (d.Whole n) := decidable_of_iff _ whole_iff.symm

theorem whole_of_scale (short : d.scale ≤ n) : d.Whole n := by
  rw [whole_iff]
  exact Dvd.dvd.mul_left (pow_dvd_pow 10 short) d.units

theorem whole_of_value (whole : a.Whole n) (same : b.value = a.value) : b.Whole n := by
  obtain ⟨k, units⟩ := whole
  exact ⟨k, same.trans units⟩

theorem Whole.neg (whole : d.Whole n) : (-d).Whole n := by
  obtain ⟨k, same⟩ := whole
  refine ⟨-k, ?_⟩
  rw [value_neg, same, Int.cast_neg, neg_div]

theorem whole_zero : Whole n 0 := whole_of_scale (Nat.zero_le n)

theorem whole_round : (d.round n).Whole n := by
  apply whole_of_scale
  unfold round
  split
  · assumption
  · exact Nat.le_refl n

theorem strip_amount (m s : Nat) : (strip m s).1 * 10 ^ (s - (strip m s).2) = m := by
  induction s generalizing m with
  | zero => simp [strip]
  | succ s ih =>
    unfold strip
    split
    · rename_i zero
      have within := (strip_le (m / 10) s).2
      have more : s + 1 - (strip (m / 10) s).2 = s - (strip (m / 10) s).2 + 1 := by omega
      rw [more, pow_succ, ← mul_assoc, ih (m / 10)]
      omega
    · simp

theorem value_normalize (d : Decimal) : d.normalize.value = d.value := by
  have amount := strip_amount d.magnitude d.scale
  have within := (strip_le d.magnitude d.scale).2
  have power : (10 : ℚ) ^ d.scale = 10 ^ (d.scale - (strip d.magnitude d.scale).2) *
      10 ^ (strip d.magnitude d.scale).2 := by
    rw [← pow_add, Nat.sub_add_cancel within]
  have digits : (d.magnitude : ℚ) = (strip d.magnitude d.scale).1 *
      10 ^ (d.scale - (strip d.magnitude d.scale).2) := by exact_mod_cast amount.symm
  have positive : (10 : ℚ) ^ (d.scale - (strip d.magnitude d.scale).2) ≠ 0 := by positivity
  have sign : (if d.normalize.negative then (-1 : ℚ) else 1) * (strip d.magnitude d.scale).1 =
      (if d.negative then -1 else 1) * (strip d.magnitude d.scale).1 := by
    by_cases none : d.magnitude = 0
    · have zero : (strip d.magnitude d.scale).1 = 0 := by
        have small := (strip_le d.magnitude d.scale).1
        omega
      simp [zero]
    · simp [normalize, none]
  rw [value_eq_magnitude, value_eq_magnitude]
  change (if d.normalize.negative then (-1 : ℚ) else 1) * (strip d.magnitude d.scale).1 /
    10 ^ (strip d.magnitude d.scale).2 = _
  rw [sign, digits, power, ← mul_assoc]
  field_simp

theorem whole_of_magnitude (divides : 10 ^ d.scale ∣ d.magnitude * 10 ^ n) : d.Whole n := by
  have divides : ((10 : Int) ^ d.scale) ∣ (d.magnitude : Int) * 10 ^ n := by exact_mod_cast divides
  rw [whole_iff, units]
  split
  · rw [neg_mul]
    exact Int.dvd_neg.mpr divides
  · exact divides

theorem make?_whole {sign : Bool} {exact k dropped s : Nat}
    (whole : exact * 10 ^ n = k * 10 ^ (dropped + s))
    (made : make? sign (roundEven exact (Nat.pow 10 dropped)) s = some d) : d.Whole n := by
  rcases Nat.lt_or_ge n s with finer | coarser
  · have split : exact = k * 10 ^ (s - n) * 10 ^ dropped := by
      apply Nat.eq_of_mul_eq_mul_right (show 0 < 10 ^ n by positivity)
      rw [whole, Nat.mul_assoc, Nat.mul_assoc, ← Nat.pow_add, ← Nat.pow_add]
      congr 2
      omega
    have kept : roundEven exact (Nat.pow 10 dropped) = k * 10 ^ (s - n) := by
      rw [split, Nat.pow_eq, roundEven_mul _ _ (by positivity)]
    rw [kept] at made
    unfold make? at made
    split at made
    · cases made
      apply whole_of_magnitude
      refine ⟨k, ?_⟩
      rw [Nat.mul_assoc, ← Nat.pow_add, Nat.sub_add_cancel (Nat.le_of_lt finer), Nat.mul_comm]
    · cases made
  · unfold make? at made
    split at made
    · cases made
      exact whole_of_scale coarser
    · cases made

theorem narrow_whole {sign : Bool} {exact k dropped s : Nat}
    (whole : exact * 10 ^ n = k * 10 ^ (dropped + s)) (narrowed : narrow sign exact dropped s = some d) :
    d.Whole n := by
  induction s generalizing dropped with
  | zero => exact make?_whole whole narrowed
  | succ s ih =>
    unfold narrow at narrowed
    split at narrowed
    · rename_i made
      cases narrowed
      exact make?_whole whole made
    · refine ih ?_ narrowed
      rw [whole]
      congr 2
      omega

theorem ofInt?_whole {exact k : Int} {s : Nat} (short : s ≤ 28)
    (whole : exact * 10 ^ n = k * 10 ^ s) (made : ofInt? exact s = some d) : d.Whole n := by
  have none : s - 28 = 0 := by omega
  rw [ofInt?, ofWide?, none, Nat.min_eq_left short] at made
  have absolute := congrArg Int.natAbs whole
  rw [Int.natAbs_mul, Int.natAbs_mul, Int.natAbs_pow, Int.natAbs_pow] at absolute
  refine narrow_whole (k := k.natAbs) ?_ made
  rw [Nat.zero_add]
  exact absolute

theorem whole_unitsAt {s : Nat} (whole : d.Whole n) (within : d.scale ≤ s) :
    ∃ k : Int, d.unitsAt s * 10 ^ n = k * 10 ^ s := by
  obtain ⟨k, same⟩ := whole
  have amount := value_unitsAt within
  have positive : (10 : ℚ) ^ n ≠ 0 := by positivity
  refine ⟨k, ?_⟩
  have scaled : (d.unitsAt s : ℚ) * 10 ^ n = k * 10 ^ s := by
    rw [amount, same]
    field_simp
  exact_mod_cast scaled

theorem whole_add (left : a.Whole n) (right : b.Whole n) (sum : a.add b = .ok c) : c.Whole n := by
  rw [add_ok] at sum
  unfold add? at sum
  split at sum
  · cases sum
    exact right
  · split at sum
    · cases sum
      exact left
    · obtain ⟨k, first⟩ := whole_unitsAt left (Nat.le_max_left a.scale b.scale)
      obtain ⟨l, second⟩ := whole_unitsAt right (Nat.le_max_right a.scale b.scale)
      refine ofInt?_whole (k := k + l) (Nat.max_le.mpr ⟨a.scale_le, b.scale_le⟩) ?_ sum
      rw [add_mul, first, second, add_mul]

theorem whole_sub (left : a.Whole n) (right : b.Whole n) (rest : a.sub b = .ok c) : c.Whole n := by
  cases nothing : b.isZero with
  | false => exact whole_add left right.neg (add_neg_of_sub nothing rest)
  | true =>
    rw [sub_ok] at rest
    unfold sub? at rest
    rw [nothing] at rest
    split at rest
    · cases rest
      exact right
    · cases rest
      exact left

end Decimal

namespace Currency

def Whole (c : Currency) (d : Decimal) : Prop := d.Whole c.decimals

instance (c : Currency) (d : Decimal) : Decidable (c.Whole d) :=
  inferInstanceAs (Decidable (d.Whole c.decimals))

theorem whole_round (c : Currency) (d : Decimal) : c.Whole (c.round d) := Decimal.whole_round

end Currency

theorem Money.validateAmount_whole {currency : Currency} (checked : validateAmount amount currency = .ok a) :
    currency.Whole a := by
  unfold validateAmount at checked
  split at checked
  · cases checked
  · dsimp only at checked
    split at checked
    · cases checked
    · rename_i fine
      cases checked
      exact Decimal.whole_of_value (Decimal.whole_of_scale (Nat.le_of_not_lt fine))
        (Decimal.value_normalize _).symm

theorem Money.validateFee_whole {currency : Currency} (checked : validateFee fee currency = .ok f) :
    currency.Whole f := by
  unfold validateFee at checked
  split at checked
  · cases checked
    exact Decimal.whole_zero
  · exact validateAmount_whole checked

end Treasury
