import Treasury.Proofs.Settlement.Standing

namespace Treasury

namespace Decimal

variable {total amount fee : Decimal}

theorem Sums.spent (exact : total.value = amount.value + fee.value)
    (free : ¬ 0 < fee → fee.isZero = true) :
    Sums 0 (-total :: amount :: if 0 < fee then [fee] else []) 0 := by
  have rest : (0 : ℚ) + (-total).value + amount.value = (-fee).value := by
    rw [value_neg, value_neg, exact, zero_add, neg_add_rev, neg_add_cancel_right]
  refine .cons (by rw [zero_add]; exact fits_value _) (.cons (by rw [rest]; exact fits_value _) ?_)
  rw [rest]
  split
  · have back : (-fee).value + fee.value = 0 := by rw [value_neg, neg_add_cancel]
    have last : Sums (-fee).value [fee] ((-fee).value + fee.value) :=
      .cons (by rw [back, ← value_zero]; exact fits_value 0) .nil
    rwa [back] at last
  · rename_i none
    have nothing : (-fee).value = 0 := by rw [value_neg, isZero_iff_value.mp (free none), neg_zero]
    rw [nothing]
    exact .nil

theorem Sums.returned (exact : total.value = amount.value + fee.value)
    (free : ¬ 0 < fee → fee.isZero = true) :
    Sums 0 (total :: -amount :: if 0 < fee then [-fee] else []) 0 := by
  have rest : (0 : ℚ) + total.value + (-amount).value = fee.value := by
    rw [value_neg, exact, zero_add, add_comm amount.value, add_neg_cancel_right]
  refine .cons (by rw [zero_add]; exact fits_value _) (.cons (by rw [rest]; exact fits_value _) ?_)
  rw [rest]
  split
  · have back : fee.value + (-fee).value = 0 := by rw [value_neg, add_neg_cancel]
    have last : Sums fee.value [-fee] (fee.value + (-fee).value) :=
      .cons (by rw [back, ← value_zero]; exact fits_value 0) .nil
    rwa [back] at last
  · rename_i none
    rw [isZero_iff_value.mp (free none)]
    exact .nil

end Decimal

theorem Transaction.total_exact {r : Transaction} {total : Decimal}
    (exact : Decimal.Fits (r.amount.value + r.fee.value)) (sum : r.total = .ok total) :
    total.value = r.amount.value + r.fee.value := by
  obtain ⟨same, added, amount⟩ := Decimal.add_exact exact
  cases sum.symm.trans added
  exact amount

namespace Standing

open Decimal (Sums)
open Transactions

variable {r : Transaction} {lines : List Line}

theorem reservation_sums (reserves : r.Reserves total) (provider : String)
    (exact : Decimal.Fits (r.amount.value + r.fee.value)) :
    Sums 0 ((reservationLines r provider total).map (·.settlement)) 0 := by
  have sums := Sums.spent (r.total_exact exact reserves.sum) reserves.fee
  unfold reservationLines feeLines
  split at sums <;> rename_i due <;> simpa [due] using sums

theorem compensation_sums (reserves : r.Reserves total) (provider : String)
    (exact : Decimal.Fits (r.amount.value + r.fee.value)) :
    Sums 0 ((compensationLines r provider total).map (·.settlement)) 0 := by
  have sums := Sums.returned (r.total_exact exact reserves.sum) reserves.fee
  unfold compensationLines
  split at sums <;> rename_i due <;> simpa [due] using sums

theorem transfer_sums (r : Transaction) (w : Wallet) (c : Credited) (farEnd : FarEnd)
    (paid : total.value = amount.value + fee.value) (free : ¬ 0 < fee → fee.isZero = true) :
    Sums 0 (((transferLegs r w total amount fee c farEnd).map Leg.line).map (·.settlement)) 0 := by
  have sums := Sums.spent paid free
  unfold transferLegs feeLegs
  split at sums <;> rename_i due <;> cases farEnd <;> simpa [due, Leg.line, farLeg] using sums

theorem opening_sums (opening : Opening t r legs) (own : r.kind.isExternal = false)
    (exact : Decimal.Fits (r.amount.value + r.fee.value)) :
    Sums 0 ((legs.map Leg.line).map (·.settlement)) 0 := by
  have given (a : Decimal) : Sums 0 [-a, a] 0 := by
    have pair := Sums.pair (-a)
    rwa [Decimal.neg_neg] at pair
  cases opening with
  | deposit _ _ _ _ => exact given _
  | payout _ _ => exact given _
  | transfer _ _ farEnd _ _ _ _ _ fee shape sum =>
    have paid := Transaction.total_exact exact sum
    subst shape
    exact transfer_sums _ _ _ farEnd paid (checkedFee_zero fee)
  | reservation d placed _ _ _ shape =>
    rw [shape] at own
    cases placed.kind.symm.trans own

theorem sums (standing : Standing r lines) (exact : Decimal.Fits (r.amount.value + r.fee.value)) :
    Sums 0 (lines.map (·.settlement)) 0 := by
  cases standing with
  | booked opening own same =>
    rw [same] at exact
    exact opening_sums opening own exact
  | reserved reserves => exact reservation_sums reserves _ exact
  | compensated reserves =>
    rw [List.map_append]
    exact (reservation_sums reserves _ exact).append (compensation_sums reserves _ exact)
  | settled reserves =>
    rw [List.map_append]
    refine (reservation_sums reserves _ exact).append ?_
    cases r.adjustment? with
    | none => exact .nil
    | some x => exact .pair x

end Standing

-- In every state of every run, the entries of a transaction balance in its own currency, as soon
-- as its total is an exact one.
theorem World.run_zero_sum (events : List Event) (distinct : (World.run events).server.gauge.Distinct)
    (r : Transaction) (stored : r ∈ (World.run events).server.tables.transactions)
    (exact : Decimal.Fits (r.amount.value + r.fee.value)) :
    ∃ nothing, Entry.settlementSum ((World.run events).server.tables.entriesOf r.id) = .ok nothing ∧
      nothing.isZero = true := by
  have sums := ((run_orderly events distinct).standing r stored).sums exact
  rw [List.map_map] at sums
  exact Decimal.sum_zero sums

-- The same payout, settled for 9.00 in the end.
def World.cheaperEvents : List Event :=
  payoutEvents (.success "ref" (some (.ofCents 900 (by decide))))

theorem World.run_zero_sum_adjusted :
    ∃ r, (World.run cheaperEvents).server.tables.transactions.getLast? = some r ∧
      r.adjustment?.map (·.magnitude) = some 100 ∧
      ∃ nothing, Entry.settlementSum ((World.run cheaperEvents).server.tables.entriesOf r.id) =
        .ok nothing ∧ nothing.isZero = true := by
  obtain ⟨r, last, amount, fee, adjusted⟩ :
      ∃ r, (World.run cheaperEvents).server.tables.transactions.getLast? = some r ∧
        r.amount = .ofCents 1000 (by decide) ∧ r.fee = .ofCents 50 (by decide) ∧
        r.adjustment?.map (·.magnitude) = some 100 := ⟨_, rfl, rfl, rfl, rfl⟩
  refine ⟨r, last, adjusted, World.run_zero_sum _ (Gauge.distinct_of_le (by decide +kernel)) r
    (List.mem_of_getLast? last) ⟨.ofCents 1050 (by decide), ?_⟩⟩
  rw [amount, fee]
  norm_num [Decimal.value, Decimal.units, Decimal.ofCents]

end Treasury
