import Treasury.Proofs.Settlement.Bookings
import Treasury.Proofs.Settlement.Records

namespace Treasury

open External Transactions

-- The provider under whose name a payment was decided, as its record notes it.
def Transaction.settler? (r : Transaction) : Option String := r.details.settlement?.map (·.provider)

-- A failed payment has booked its reservation and what its settler gave back.
def Transaction.Returned (r : Transaction) (lines : List Line) : Prop :=
  r.kind.isExternal = true → r.status = .failed →
    ∃ provider settler total, r.settler? = some settler ∧ r.total = .ok total ∧
      lines = reservationLines r provider total ++ compensationLines r settler total

theorem Draft.Placed.amount {d : Draft} (placed : d.Placed) : ¬ d.amount ≤ 0 := by
  cases placed with
  | giftCard request quote priced => exact priced.positive
  | payout request w amount => exact checkedAmount_positive amount
  | send request w amount => exact checkedAmount_positive amount

theorem Opening.amount (opening : Opening t r legs) (external : r.kind.isExternal = true) :
    ¬ r.amount ≤ 0 := by
  cases opening with
  | reservation d placed _ _ _ shape =>
    rw [shape]
    exact placed.amount
  | deposit _ _ _ _ shape =>
    rw [shape] at external
    cases external
  | transfer _ _ _ _ _ _ _ _ _ shape =>
    rw [shape] at external
    cases external
  | payout _ _ shape =>
    rw [shape] at external
    cases external

theorem Transaction.amount_lasting :
    Transaction.Lasting fun r => r.kind.isExternal = true → ¬ r.amount ≤ 0 where
  opened _ _ _ opening := opening.amount
  touched _ _ positive := positive
  decided _ _ _ _ _ _ positive _ _ _ := positive

theorem Transaction.Decided.settler? {r : Transaction} (outside : r.platform.isExternal = true)
    (c : SettleCall) (noted : Settlement) (moment : Instant) :
    (r.Decided c noted moment).settler? = some noted.provider := by
  change (r.details.settle noted).settlement?.map _ = _
  rw [Details.settle_noted outside]
  rfl

theorem Transaction.returned_enduring : Transaction.Enduring Transaction.Returned where
  opened t r legs opening := by
    intro external failed
    obtain ⟨_, _, _, _, opens⟩ := opening.reserving external
    rw [opens.pending] at failed
    cases failed
  touched r lines moment returned := returned
  decided t r c legs noted moment lines returned standing held current moves resolves := by
    intro external failed
    have kin := Transaction.Decided.kin r c noted moment
    obtain ⟨id, expected, settler, outcome⟩ := c
    -- Only a failure makes a payment fail, and only one that waits.
    cases resolves with
    | accepted => cases failed
    | exact => cases failed
    | adjusted => cases failed
    | waiting => cases failed
    | @compensated w total _ _ there sum =>
      cases standing with
      | booked _ own same =>
        rw [same] at external
        cases own.symm.trans external
      | compensated _ ended =>
        rw [← current, ended] at moves
        cases moves
      | settled _ ended =>
        rw [← current, ended] at moves
        cases moves
      | @reserved reserved provider reserves waits =>
        have same : total = reserved := Except.ok.inj (sum.symm.trans reserves.sum)
        subst same
        have currency : w.currency = r.currency := by
          rw [there] at held
          exact Option.some.inj held
        refine ⟨provider, settler, total, ?_, (kin.reserves reserves).sum, ?_⟩
        · exact Transaction.Decided.settler? reserves.platform _ _ _
        · rw [kin.reservationLines, kin.compensationLines,
            compensationLegs_lines (Rows.key_of_find? there) currency]

theorem providerAccount_inj {platform : Platform} :
    providerAccount platform provider = providerAccount platform settler ↔ provider = settler := by
  simp [providerAccount]

theorem reversed_amounts (r : Transaction) (provider settler : String) (total : Decimal)
    (account : Account) (outside : account.isOnPlatform = false) :
    ((reservationLines r provider total ++ compensationLines r settler total).filter
      (·.account = account)).map (·.amount) =
      (if providerAccount r.platform provider = account then [r.amount] else []) ++
        if providerAccount r.platform settler = account then [-r.amount] else [] := by
  have wallet (id : WalletId) : ¬ Account.wallet id = account := by
    intro same
    subst same
    cases outside
  have fees : ¬ Account.fees = account := by
    intro same
    subst same
    cases outside
  unfold reservationLines compensationLines feeLines
  by_cases due : 0 < r.fee <;> by_cases gave : providerAccount r.platform provider = account <;>
    by_cases got : providerAccount r.platform settler = account <;>
    simp [due, gave, got, wallet, fees]

theorem not_cancels_single {d : Decimal} {lines : List Line} (apart : d.value ≠ 0)
    (left : (lines.filter (·.account = account)).map (·.amount) = [d]) : ¬ Cancels account lines := by
  intro cancels
  obtain ⟨nothing, sum, zero⟩ := cancels
  obtain ⟨single, added, amount⟩ := Decimal.sum_exact (Decimal.Sums.single d)
  rw [left, added] at sum
  cases sum
  rw [Decimal.isZero_iff_value, amount] at zero
  exact apart zero

theorem cancels_empty {lines : List Line} (none : ∀ l ∈ lines, l.account ≠ account) :
    Cancels account lines := by
  have nothing : lines.filter (·.account = account) = [] := by simpa using none
  unfold Cancels
  rw [nothing]
  exact ⟨0, rfl, rfl⟩

theorem reversed_on_platform (r : Transaction) (provider settler : String) (total : Decimal)
    (inside : account.isOnPlatform = true) :
    Cancels account (reservationLines r provider total ++ compensationLines r settler total) := by
  cases account with
  | external => cases inside
  | fees => exact compensated_fees r provider settler total
  | rewards =>
    apply cancels_empty
    unfold reservationLines compensationLines feeLines providerAccount
    by_cases due : 0 < r.fee <;> simp [due]
  | wallet id =>
    by_cases own : r.walletId = id
    · subst own
      exact compensated_wallet r provider settler total
    · apply cancels_empty
      unfold reservationLines compensationLines feeLines providerAccount
      by_cases due : 0 < r.fee <;> simp [due, own]

-- An account is left with something exactly if it is one of two providers' accounts that differ.
theorem reversed_iff {r : Transaction} (positive : ¬ r.amount ≤ 0) (provider settler : String)
    (total : Decimal) (account : Account) :
    Cancels account (reservationLines r provider total ++ compensationLines r settler total) ↔
      provider = settler ∨ account ≠ providerAccount r.platform provider ∧
        account ≠ providerAccount r.platform settler := by
  cases inside : account.isOnPlatform with
  | true =>
    have apart (name : String) : account ≠ providerAccount r.platform name := by
      intro same
      rw [same] at inside
      cases inside
    exact iff_of_true (reversed_on_platform r provider settler total inside)
      (.inr ⟨apart provider, apart settler⟩)
  | false =>
    have left := reversed_amounts r provider settler total account inside
    have some : r.amount.value ≠ 0 := by
      rw [Decimal.le_iff_value, Decimal.value_zero, not_le] at positive
      exact ne_of_gt positive
    by_cases gave : providerAccount r.platform provider = account <;>
      by_cases got : providerAccount r.platform settler = account
    · have same : provider = settler := providerAccount_inj.mp (gave.trans got.symm)
      refine iff_of_true ?_ (.inl same)
      unfold Cancels
      rw [left, if_pos gave, if_pos got]
      exact Decimal.sum_zero (.pair r.amount)
    · rw [if_pos gave, if_neg got] at left
      refine iff_of_false (not_cancels_single some left) ?_
      intro even
      rcases even with same | ⟨apart, _⟩
      · exact got (same ▸ gave)
      · exact apart gave.symm
    · rw [if_neg gave, if_pos got] at left
      refine iff_of_false (not_cancels_single (by simpa [Decimal.value_neg] using some) left) ?_
      intro even
      rcases even with same | ⟨_, apart⟩
      · exact gave (same ▸ got)
      · exact apart got.symm
    · refine iff_of_true ?_ (.inr ⟨Ne.symm gave, Ne.symm got⟩)
      unfold Cancels
      rw [left, if_neg gave, if_neg got]
      exact ⟨0, rfl, rfl⟩

namespace World

-- In every state of every run, a failed payment leaves an account with something only where it was
-- decided under another provider's name than it was reserved under, and then on these two accounts.
theorem run_reversed (events : List Event) (distinct : (run events).server.gauge.Distinct)
    (r : Transaction) (stored : r ∈ (run events).server.tables.transactions)
    (external : r.kind.isExternal = true) (failed : r.status = .failed) :
    ∃ provider settler total, r.settler? = some settler ∧ r.total = .ok total ∧
      ((run events).server.tables.entriesOf r.id).map Entry.line =
        reservationLines r provider total ++ compensationLines r settler total ∧
      ∀ account, Cancels account (((run events).server.tables.entriesOf r.id).map Entry.line) ↔
        provider = settler ∨ account ≠ providerAccount r.platform provider ∧
          account ≠ providerAccount r.platform settler := by
  have found := Rows.find?_of_mem (run_orderly events distinct).single stored
  obtain ⟨provider, settler, total, decided, sum, lines⟩ :=
    run_endures Transaction.returned_enduring events distinct r.id r found external failed
  have positive := run_records Transaction.amount_lasting events r.id r found external
  refine ⟨provider, settler, total, decided, sum, lines, ?_⟩
  intro account
  rw [lines]
  exact reversed_iff positive provider settler total account

theorem run_reversed_refunded : ∃ r,
    (run (payoutEvents (.failed "closed" none))).server.tables.transactions.getLast? = some r ∧
      r.settler? = some "bank" ∧
      ∀ account, Cancels account
        (((run (payoutEvents (.failed "closed" none))).server.tables.entriesOf r.id).map Entry.line) := by
  obtain ⟨r, last, external, failed, noted, second⟩ :
      ∃ r, (run (payoutEvents (.failed "closed" none))).server.tables.transactions.getLast? = some r ∧
        r.kind.isExternal = true ∧ r.status = .failed ∧ r.settler? = some "bank" ∧
        (((run (payoutEvents (.failed "closed" none))).server.tables.entriesOf r.id).map Entry.line)[1]?.map
          (·.account) = some (providerAccount r.platform "bank") :=
    ⟨_, rfl, rfl, rfl, rfl, rfl⟩
  obtain ⟨provider, settler, total, decided, _, lines, cancels⟩ :=
    run_reversed _ (Gauge.distinct_of_le (by decide +kernel)) r (List.mem_of_getLast? last) external failed
  cases noted.symm.trans decided
  rw [lines] at second
  have same : provider = "bank" := providerAccount_inj.mp (Option.some.inj second)
  exact ⟨r, last, noted, fun account => (cancels account).mpr (.inl same)⟩

def renamedEvents : List Event :=
  payoutEvents (.unknown none) ++
    [.begin (.reconcile 1000 ⟨none, some "rail", none⟩ ⟨0, 100⟩), .advance 3, .advance 3, .advance 3,
      .reply 3 ⟨.failed "closed" none, none⟩, .advance 3, .advance 3]

theorem renamed_unreversed : ¬ ∀ (events : List Event) (r : Transaction),
    (run events).server.gauge.Distinct → r ∈ (run events).server.tables.transactions →
    r.kind.isExternal = true → r.status = .failed →
    ∀ account, Cancels account (((run events).server.tables.entriesOf r.id).map Entry.line) := by
  intro always
  obtain ⟨r, stored, external, failed, lines⟩ :
      ∃ r ∈ (run renamedEvents).server.tables.transactions,
        r.kind.isExternal = true ∧ r.status = .failed ∧
        ((run renamedEvents).server.tables.entriesOf r.id).map Entry.line =
          reservationLines r "bank" (.ofCents 1050 (by decide)) ++
            compensationLines r "rail" (.ofCents 1050 (by decide)) := by
    decide +kernel
  have distinct : (run renamedEvents).server.gauge.Distinct := Gauge.distinct_of_le (by decide +kernel)
  have positive := run_records Transaction.amount_lasting renamedEvents r.id r
    (Rows.find?_of_mem (run_orderly renamedEvents distinct).single stored) external
  have cancels := always renamedEvents r distinct stored external failed
    (providerAccount r.platform "bank")
  rw [lines, reversed_iff positive] at cancels
  simp at cancels

end World
end Treasury
