import Treasury.Proofs.Money.Amounts

namespace Treasury

open Decimal

theorem Decimal.isLeast_normalize (d : Decimal) : IsLeast {n | d.Whole n} d.normalize.scale :=
  ⟨scale_normalize_le.mp (Nat.le_refl _), fun _ whole => scale_normalize_le.mpr whole⟩

namespace Money

variable {currency : Currency} {a d : Decimal}

theorem validateAmount_invalid : validateAmount a currency = .error .invalidAmount ↔ a ≤ 0 := by
  rw [validateAmount_eq, ← not_lt_iff]
  split_ifs <;> simp_all

theorem validateAmount_overflow :
    validateAmount a currency = .error (.precisionOverflow provided most) ↔
      0 < a ∧ ¬ currency.Whole a ∧ IsLeast {n | a.Whole n} provided ∧ most = currency.decimals := by
  have least (n : Nat) : IsLeast {n | a.Whole n} n ↔ a.normalize.scale = n :=
    ⟨fun other => a.isLeast_normalize.unique other, fun same => same ▸ a.isLeast_normalize⟩
  rw [validateAmount_eq, least]
  split_ifs <;> simp_all [eq_comm]

theorem validateFee_eq (fee : Decimal) (currency : Currency) : validateFee fee currency =
    if fee.value = 0 then .ok 0 else validateAmount fee currency := by
  unfold validateFee
  rw [if_congr isZero_iff_value rfl rfl]

-- What passes is positive and in minor units, so that rounding leaves its amount alone; of what is too
-- fine it is told how many decimals it needs. A fee differs in that each zero passes, as the plain one.
theorem checks_exactly (a : Decimal) (currency : Currency) :
    (∀ d, validateAmount a currency = .ok d ↔ d = a ∧ 0 < a ∧ currency.Whole a) ∧
      (validateAmount a currency = .error .invalidAmount ↔ a ≤ 0) ∧
      (0 < a → ¬ currency.Whole a → ∃ provided, IsLeast {n | a.Whole n} provided ∧
        validateAmount a currency = .error (.precisionOverflow provided currency.decimals)) ∧
      (validateFee a currency = if a.value = 0 then .ok 0 else validateAmount a currency) ∧
      ∀ d, validateAmount a currency = .ok d ∨ validateFee a currency = .ok d →
        (currency.round d).value = d.value := by
  refine ⟨fun d => ?_, validateAmount_invalid, fun positive broken => ?_, validateFee_eq a currency, ?_⟩
  · rw [validateAmount_ok, eq_comm]
  · exact ⟨_, a.isLeast_normalize, validateAmount_overflow.mpr
      ⟨positive, broken, a.isLeast_normalize, rfl⟩⟩
  · rintro d (amount | fee)
    · exact (validateAmount_whole amount).round_value
    · exact (validateFee_whole fee).round_value

end Money
end Treasury
