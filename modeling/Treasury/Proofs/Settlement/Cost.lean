import Treasury.Proofs.Ledger.Movement
import Treasury.Proofs.Settlement.Records
import Treasury.Proofs.Settlement.ZeroSum
import Mathlib.Tactic.Ring

namespace Treasury

open External

def Transaction.reported? (r : Transaction) : Option Decimal :=
  r.details.settlement?.bind (·.settledAmount)

-- Beside a price, what a note says was moved is the difference that the price makes, unless the
-- wallet could not cover it.
def Settlement.Explains (noted : Settlement) (r : Transaction) : Prop :=
  match noted.settledAmount with
  | none => noted.adjustment = none
  | some settled =>
    ∃ price difference, actualAmount r settled = .ok price ∧ price.sub r.amount = .ok difference ∧
      (noted.adjustment = some (-difference) ∨ noted.adjustment = none ∧ ¬ difference < 0)

def Transaction.Explained (r : Transaction) : Prop :=
  ∀ noted, r.details.settlement? = some noted → noted.Explains r

theorem Resolves.explains {r : Transaction} (resolves : Resolves t r provider outcome legs noted) :
    noted.Explains r := by
  cases resolves with
  | accepted => rfl
  | compensated => rfl
  | waiting => rfl
  | exact actual taken nothing =>
    refine ⟨_, _, actual, taken, .inr ⟨rfl, ?_⟩⟩
    rw [Decimal.lt_iff_value, Decimal.isZero_iff_value.mp nothing, Decimal.value_zero]
    exact lt_irrefl 0
  | adjusted actual taken =>
    unfold Difference.of
    split
    · exact ⟨_, _, actual, taken, .inl rfl⟩
    · rename_i above
      split
      · exact ⟨_, _, actual, taken, .inl rfl⟩
      · exact ⟨_, _, actual, taken, .inr ⟨rfl, above⟩⟩

theorem Details.settlement?_settle {d : Details} {noted : Settlement}
    (kept : (d.settle noted).settlement? = some s) : s = noted := by
  cases d <;> cases kept <;> rfl

theorem Opening.unsettled {r : Transaction} (opening : Opening t r legs) :
    r.details.settlement? = none := by
  cases opening with
  | deposit _ _ _ _ shape => rw [shape]; rfl
  | transfer _ _ _ _ _ _ _ _ _ shape => rw [shape]; rfl
  | payout _ _ shape => rw [shape]; rfl
  | reservation d placed _ _ _ shape =>
    rw [shape]
    cases placed <;> rfl

theorem Transaction.explained_lasting : Transaction.Lasting Transaction.Explained := by
  refine ⟨fun t r legs opening noted kept => ?_, fun r moment explained noted kept => ?_,
    fun t r c legs noted moment _ _ _ resolves s kept => ?_⟩
  · rw [opening.unsettled] at kept
    cases kept
  · exact explained noted kept
  · cases Details.settlement?_settle kept
    exact resolves.explains

inductive Transaction.Costs (r : Transaction) : ℚ → Prop where
  | reserved (waits : r.status = .pending ∨ r.status = .unknown) :
      Costs r (r.amount.value + r.fee.value)
  | returned (failed : r.status = .failed) : Costs r 0
  | estimated (succeeded : r.status = .succeeded) (unpriced : r.reported? = none) :
      Costs r (r.amount.value + r.fee.value)
  | priced (succeeded : r.status = .succeeded) (reported : r.reported? = some settled)
      (actual : actualAmount r settled = .ok price) : Costs r (price.value + r.fee.value)
  | uncovered (succeeded : r.status = .succeeded) (reported : r.reported? = some settled)
      (actual : actualAmount r settled = .ok price) (more : r.amount.value ≤ price.value) :
      Costs r (r.amount.value + r.fee.value)

def Transaction.Fair (r : Transaction) : Prop :=
  ∀ settled price, r.reported? = some settled → actualAmount r settled = .ok price →
    -r.fee.value ≤ price.value

def Tables.netOf (t : Tables) (r : Transaction) : ℚ := net r.walletId ((t.entriesOf r.id).map Entry.line)

section Net

variable (r : Transaction) (provider : String) (total : Decimal)

theorem net_reservation : net r.walletId (reservationLines r provider total) = -total.value := by
  unfold net amountsOn reservationLines feeLines providerAccount
  by_cases due : 0 < r.fee <;> simp [due]

theorem net_compensation : net r.walletId (compensationLines r provider total) = total.value := by
  unfold net amountsOn compensationLines providerAccount
  by_cases due : 0 < r.fee <;> simp [due]

theorem net_adjustment (x : Decimal) :
    net r.walletId (adjustmentLines r provider (some x)) = x.value := by
  simp [net, amountsOn, adjustmentLines, providerAccount]

end Net

-- The sums and differences that a settlement needs are exact ones.
structure Transaction.Exact (r : Transaction) : Prop where
  total : Decimal.Fits (r.amount.value + r.fee.value)
  difference : ∀ settled price, r.reported? = some settled → actualAmount r settled = .ok price →
    Decimal.Fits (price.value - r.amount.value)

theorem Transaction.Exact.of_price {r : Transaction} (total : Decimal.Fits (r.amount.value + r.fee.value))
    (reported : r.reported? = some settled) (actual : actualAmount r settled = .ok price)
    (difference : Decimal.Fits (price.value - r.amount.value)) : r.Exact := by
  refine ⟨total, fun other found told same => ?_⟩
  cases told.symm.trans reported
  cases same.symm.trans actual
  exact difference

theorem Transaction.Explained.costs {r : Transaction} {total : Decimal} (explained : r.Explained)
    (exact : r.Exact) (succeeded : r.status = .succeeded) (provider settler : String)
    (paid : total.value = r.amount.value + r.fee.value) :
    r.Costs (-net r.walletId
      (reservationLines r provider total ++ adjustmentLines r settler r.adjustment?)) := by
  have estimated : -net r.walletId (reservationLines r provider total ++ adjustmentLines r settler none) =
      r.amount.value + r.fee.value := by
    rw [net_append, net_reservation, paid]
    simp [net, amountsOn, adjustmentLines]
  cases kept : r.details.settlement? with
  | none =>
    have unpriced : r.reported? = none := by rw [reported?, kept]; rfl
    have unmoved : r.adjustment? = none := by rw [adjustment?, kept]; rfl
    rw [unmoved, estimated]
    exact .estimated succeeded unpriced
  | some noted =>
    have reported : r.reported? = noted.settledAmount := by rw [reported?, kept]; rfl
    have moved : r.adjustment? = noted.adjustment := by rw [adjustment?, kept]; rfl
    have explains := explained noted kept
    unfold Settlement.Explains at explains
    rw [moved]
    cases told : noted.settledAmount with
    | none =>
      rw [told] at explains reported
      dsimp only at explains
      rw [explains, estimated]
      exact .estimated succeeded reported
    | some settled =>
      rw [told] at explains reported
      obtain ⟨price, difference, actual, taken, moves⟩ := explains
      have apart := Decimal.sub_value taken (exact.difference settled price reported actual)
      rcases moves with back | ⟨unmoved, above⟩
      · have left : -net r.walletId (reservationLines r provider total ++
            adjustmentLines r settler (some (-difference))) = price.value + r.fee.value := by
          rw [net_append, net_reservation, net_adjustment, Decimal.value_neg, apart, paid]
          ring
        rw [back, left]
        exact .priced succeeded reported actual
      · rw [unmoved, estimated]
        refine .uncovered succeeded reported actual ?_
        rw [Decimal.lt_iff_value, Decimal.value_zero, apart] at above
        linarith

theorem Standing.costs {r : Transaction} (standing : Standing r lines) (explained : r.Explained)
    (exact : r.Exact) (external : r.kind.isExternal = true) : r.Costs (-net r.walletId lines) := by
  cases standing with
  | booked _ own same =>
    rw [same] at external
    cases own.symm.trans external
  | reserved reserves waits =>
    rw [net_reservation, neg_neg, r.total_exact exact.total reserves.sum]
    exact .reserved waits
  | compensated reserves failed =>
    rw [net_append, net_reservation, net_compensation, neg_add_cancel, neg_zero]
    exact .returned failed
  | settled reserves succeeded =>
    exact explained.costs exact succeeded _ _ (r.total_exact exact.total reserves.sum)

theorem Transaction.Costs.not_neg {r : Transaction} (costs : r.Costs q) (fair : r.Fair)
    (reserved : 0 ≤ r.amount.value + r.fee.value) : 0 ≤ q := by
  cases costs with
  | reserved => exact reserved
  | returned => exact le_refl 0
  | estimated => exact reserved
  | uncovered => exact reserved
  | priced _ reported actual =>
    have low := fair _ _ reported actual
    linarith

namespace World

-- In every state of every run, a payment has cost its wallet what its record tells, and unless
-- a price was told that is lower than the fee is high, that is never less than nothing.
theorem run_costs (events : List Event) (distinct : (run events).server.gauge.Distinct)
    (r : Transaction) (stored : r ∈ (run events).server.tables.transactions)
    (external : r.kind.isExternal = true) (exact : r.Exact) :
    r.Costs (-(run events).server.tables.netOf r) ∧
      (r.Fair → (run events).server.tables.netOf r ≤ 0) := by
  have orderly := run_orderly events distinct
  have standing := orderly.standing r stored
  have explained := run_records Transaction.explained_lasting events r.id r
    (Rows.find?_of_mem orderly.single stored)
  have costs : r.Costs (-(run events).server.tables.netOf r) :=
    standing.costs explained exact external
  refine ⟨costs, fun fair => ?_⟩
  obtain ⟨total, reserves⟩ := standing.reserves external
  have positive := reserves.positive
  rw [Decimal.le_iff_value, Decimal.value_zero, not_le, r.total_exact exact.total reserves.sum] at positive
  have paid := costs.not_neg fair (le_of_lt positive)
  linarith

theorem payout_fits {r : Transaction} (amount : r.amount = .ofCents 1000 (by decide))
    (fee : r.fee = .ofCents 50 (by decide)) : Decimal.Fits (r.amount.value + r.fee.value) := by
  refine ⟨.ofCents 1050 (by decide), ?_⟩
  rw [amount, fee]
  norm_num [Decimal.value, Decimal.units, Decimal.ofCents]

theorem run_costs_cheaper :
    ∃ r, (run cheaperEvents).server.tables.transactions.getLast? = some r ∧
      r.Costs (-(run cheaperEvents).server.tables.netOf r) ∧
      (run cheaperEvents).server.tables.netOf r ≤ 0 := by
  obtain ⟨r, last, external, amount, fee, reported, actual⟩ :
      ∃ r, (run cheaperEvents).server.tables.transactions.getLast? = some r ∧
        r.kind.isExternal = true ∧ r.amount = .ofCents 1000 (by decide) ∧
        r.fee = .ofCents 50 (by decide) ∧ r.reported? = some (.ofCents 900 (by decide)) ∧
        actualAmount r (.ofCents 900 (by decide)) = .ok (.ofCents 900 (by decide)) :=
    ⟨_, rfl, rfl, rfl, rfl, rfl, rfl⟩
  have exact : r.Exact := by
    refine .of_price (payout_fits amount fee) reported actual ⟨-.ofCents 100 (by decide), ?_⟩
    rw [amount, Decimal.value_neg]
    norm_num [Decimal.value, Decimal.units, Decimal.ofCents]
  obtain ⟨costs, bounded⟩ := run_costs cheaperEvents (Gauge.distinct_of_le (by decide +kernel)) r
    (List.mem_of_getLast? last) external exact
  refine ⟨r, last, costs, bounded fun settled price told priced => ?_⟩
  cases told.symm.trans reported
  cases priced.symm.trans actual
  rw [fee]
  norm_num [Decimal.value, Decimal.units, Decimal.ofCents]

-- A payout of 10.00 for which the provider tells a price of -5.00. It brings 4.50 in.
def negativeEvents : List Event :=
  payoutEvents (.success "ref" (some (-.ofCents 500 (by decide))))

theorem run_enriched : ¬ ∀ (events : List Event) (r : Transaction),
    (run events).server.gauge.Distinct → r ∈ (run events).server.tables.transactions →
    r.kind.isExternal = true → r.Exact → (run events).server.tables.netOf r ≤ 0 := by
  intro never
  obtain ⟨r, last, external, amount, fee, reported, actual, lines⟩ :
      ∃ r, (run negativeEvents).server.tables.transactions.getLast? = some r ∧
        r.kind.isExternal = true ∧ r.amount = .ofCents 1000 (by decide) ∧
        r.fee = .ofCents 50 (by decide) ∧ r.reported? = some (-.ofCents 500 (by decide)) ∧
        actualAmount r (-.ofCents 500 (by decide)) = .ok (-.ofCents 500 (by decide)) ∧
        ((run negativeEvents).server.tables.entriesOf r.id).map Entry.line =
          reservationLines r "bank" (.ofCents 1050 (by decide)) ++
            adjustmentLines r "bank" (some (.ofCents 1500 (by decide))) :=
    ⟨_, rfl, rfl, rfl, rfl, rfl, rfl, rfl⟩
  have exact : r.Exact := by
    refine .of_price (payout_fits amount fee) reported actual ⟨-.ofCents 1500 (by decide), ?_⟩
    rw [amount, Decimal.value_neg, Decimal.value_neg]
    norm_num [Decimal.value, Decimal.units, Decimal.ofCents]
  have low := never negativeEvents r (Gauge.distinct_of_le (by decide +kernel))
    (List.mem_of_getLast? last) external exact
  rw [Tables.netOf, lines, net_append, net_reservation, net_adjustment] at low
  norm_num [Decimal.value, Decimal.units, Decimal.ofCents] at low

end World
end Treasury
