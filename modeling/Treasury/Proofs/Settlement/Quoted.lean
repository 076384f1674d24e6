import Treasury.Proofs.Request.Pricing
import Treasury.Proofs.Settlement.Success

namespace Treasury

open External

-- The payment went through for what was reserved: nothing was adjusted, nothing is short, and all
-- that its wallet ever paid is the reserved total.
structure Tables.Evened (t : Tables) (r : Transaction) : Prop where
  succeeded : r.status = .succeeded
  unadjusted : r.adjustment? = none
  covered : r.shortfall? = none
  paid : ∃ total, r.amount.add r.fee = .ok total ∧
    amountsOn r.walletId ((t.entriesOf r.id).map Entry.line) = [-total]

namespace Transaction

variable {r : Transaction} {settled price amount : Decimal}

theorem Quotes.actual (quotes : r.Quotes amount) (same : settled.value = amount.value) :
    ∃ price, actualAmount r settled = .ok price ∧ price.value = r.amount.value := by
  obtain ⟨product, made, reserved⟩ := quotes.of_value same
  refine ⟨r.currency.round product, ?_, reserved⟩
  rw [actualAmount, made]
  rfl

theorem no_difference (even : price.value = r.amount.value) :
    ∃ difference, price.sub r.amount = .ok difference ∧ difference.value = 0 := by
  have nothing := sub_eq_zero.mpr even
  obtain ⟨difference, taken, apart⟩ := Decimal.sub_exact ⟨0, Decimal.value_zero.trans nothing.symm⟩
  exact ⟨difference, taken, apart.trans nothing⟩

def Even (r : Transaction) : Prop :=
  ∀ noted settled price, r.details.settlement? = some noted → noted.settledAmount = some settled →
    actualAmount r settled = .ok price → price.value = r.amount.value →
    r.status = .succeeded ∧ noted.adjustment = none ∧ noted.shortfall = none

end Transaction

theorem External.Difference.note_reported (found : Difference) (noted : Settlement) :
    (found.note noted).settledAmount = noted.settledAmount := by
  cases found <;> rfl

theorem Resolves.even {r : Transaction} {settled price : Decimal}
    (resolves : Resolves t r provider outcome legs noted) (reported : noted.settledAmount = some settled)
    (actual : actualAmount r settled = .ok price) (even : price.value = r.amount.value) :
    outcome.status = .succeeded ∧ legs = [] ∧ noted.adjustment = none ∧ noted.shortfall = none := by
  obtain ⟨difference, taken, nothing⟩ := Transaction.no_difference even
  cases resolves with
  | accepted => cases reported
  | compensated => cases reported
  | waiting => cases reported
  | exact => exact ⟨rfl, rfl, rfl, rfl⟩
  | adjusted actual' taken' something =>
    rw [Difference.note_reported] at reported
    cases reported
    cases actual.symm.trans actual'
    cases taken.symm.trans taken'
    cases something.symm.trans (Decimal.isZero_iff_value.mpr nothing)

theorem Transaction.even_lasting : Transaction.Lasting Transaction.Even := by
  refine ⟨fun t r legs opening noted _ _ kept => ?_, fun r moment even => even,
    fun t r c legs noted moment _ _ _ resolves s settled price kept reported actual even => ?_⟩
  · rw [opening.unsettled] at kept
    cases kept
  · cases Details.settlement?_settle kept
    obtain ⟨succeeded, _, unmoved, covered⟩ := resolves.even reported actual even
    exact ⟨succeeded, unmoved, covered⟩

theorem amountsOn_reserved (r : Transaction) (provider : String) (total : Decimal) :
    amountsOn r.walletId (reservationLines r provider total) = [-total] := by
  unfold amountsOn reservationLines feeLines providerAccount
  by_cases due : 0 < r.fee <;> simp [due]

theorem Standing.unadjusted {r : Transaction} (standing : Standing r lines)
    (kept : r.details.settlement? = some noted) (succeeded : r.status = .succeeded)
    (unmoved : r.adjustment? = none) :
    ∃ total, r.amount.add r.fee = .ok total ∧ amountsOn r.walletId lines = [-total] := by
  cases standing with
  | booked opening own same =>
    rw [same] at kept
    cases opening.unsettled.symm.trans kept
  | reserved _ waits =>
    rw [succeeded] at waits
    rcases waits with waits | waits <;> cases waits
  | compensated _ failed => cases failed.symm.trans succeeded
  | @settled total provider settler reserves =>
    refine ⟨total, reserves.sum, ?_⟩
    rw [unmoved]
    exact (congrArg (amountsOn r.walletId) (List.append_nil _)).trans (amountsOn_reserved r provider total)

theorem Transaction.Even.evened {r : Transaction} {t : Tables} {amount : Decimal} (even : r.Even) (quotes : r.Quotes amount)
    (standing : Standing r ((t.entriesOf r.id).map Entry.line)) (reported : r.reported? = some settled)
    (same : settled.value = amount.value) : t.Evened r := by
  obtain ⟨noted, kept, told⟩ := Option.bind_eq_some_iff.mp reported
  obtain ⟨price, actual, reserved⟩ := quotes.actual same
  obtain ⟨succeeded, unmoved, covered⟩ := even noted settled price kept told actual reserved
  have unadjusted : r.adjustment? = none := by
    rw [adjustment?, kept]
    exact unmoved
  refine ⟨succeeded, unadjusted, ?_, standing.unadjusted kept succeeded unadjusted⟩
  rw [shortfall?, kept]
  exact covered

-- What a call that settles leaves of a payment that costs what was reserved.
structure Tables.Closes (t : Tables) (r : Transaction) (settled : Decimal) (x : Transaction)
    (t' : Tables) : Prop where
  record : ∃ moment, t'.transaction? r.id = some { x with updatedAt := moment }
  reported : x.reported? = some settled
  evened : t'.Evened x
  money : t.SameMoney t'

theorem Settles.closes {r x : Transaction} {t : Tables}
    (settles : Settles ⟨r.id, r.status, provider, .success reference (some settled)⟩ t (.settled x) p)
    (stored : t.transaction? r.id = some r) (quotes : r.Quotes amount)
    (standing : Standing r ((t.entriesOf r.id).map Entry.line))
    (waits : r.status = .pending ∨ r.status = .unknown) (same : settled.value = amount.value) :
    t.Closes r settled x (p.getD t) := by
  obtain ⟨reserver, total, reserves, lines⟩ := standing.waiting waits
  obtain ⟨price, actual, reserved⟩ := quotes.actual same
  obtain ⟨legs, noted, t', moment, resolves, books, kept, rfl, rfl⟩ :=
    settles.succeeds stored waits reserves
  have told : noted.settledAmount = some settled := by
    cases resolves with
    | exact => rfl
    | adjusted => exact Difference.note_reported _ _
  obtain ⟨_, rfl, unmoved, covered⟩ := resolves.even told actual reserved
  cases books
  refine ⟨⟨moment, Tables.decided_record
    (c := ⟨r.id, r.status, provider, .success reference (some settled)⟩) stored .nil⟩,
    (congrArg (Option.bind · _) kept).trans told, ⟨rfl, (congrArg (Option.bind · _) kept).trans unmoved,
      (congrArg (Option.bind · _) kept).trans covered, total, reserves.sum, ?_⟩, ⟨rfl, rfl⟩⟩
  change amountsOn r.walletId ((t.entriesOf r.id).map Entry.line) = _
  rw [lines]
  exact amountsOn_reserved r reserver total

-- No sum breaks down where the price is the reserved amount.
theorem External.Uncounted.uneven {r : Transaction}
    (uncounted : Uncounted t r (.success reference (some settled)) operation)
    (quotes : r.Quotes amount) : settled.value ≠ amount.value := by
  intro same
  obtain ⟨price, actual, reserved⟩ := quotes.actual same
  obtain ⟨difference, taken, nothing⟩ := Transaction.no_difference reserved
  cases uncounted with
  | price stopped => cases stopped.symm.trans actual
  | difference actual' stopped =>
    cases actual.symm.trans actual'
    cases stopped.symm.trans taken
  | @given _ _ _ w _ _ actual' taken' stored stopped =>
    cases actual.symm.trans actual'
    cases taken.symm.trans taken'
    have sum : w.balance.value + (-difference).value = w.balance.value := by
      rw [Decimal.value_neg, nothing, neg_zero, add_zero]
    obtain ⟨_, added, _⟩ := Decimal.add_exact (sum ▸ Decimal.fits_value w.balance)
    cases stopped.symm.trans added
  | @charged _ _ _ w _ _ actual' taken' stored stopped =>
    cases actual.symm.trans actual'
    cases taken.symm.trans taken'
    have rest : w.balance.value - difference.value = w.balance.value := by rw [nothing, sub_zero]
    obtain ⟨_, left, _⟩ := Decimal.sub_exact (rest ▸ Decimal.fits_value w.balance)
    cases stopped.symm.trans left

namespace World

-- Every order of a run asks for what was reserved. Once its record tells that the provider charged
-- just that, nothing was adjusted and nothing is short, and the wallet has paid what was reserved
-- with the fee. While the record waits, no call that settles it at that price does anything else,
-- whatever rates were recorded since.
theorem run_settles_as_quoted (events : List Event) (distinct : (run events).server.gauge.Distinct)
    (activity : Nat) (gateway : String) (id : TransactionId) (order : Order)
    (given : (activity, Call.order gateway id order) ∈ start.orders events)
    (settled : Decimal) (same : settled.value = order.amount.value)
    (provider reference : String) (answer : {β : Type} → Question β → β) :
    let before := (run events).server
    ∃ r, before.tables.transaction? id = some r ∧
      (r.reported? = some settled → before.tables.Evened r) ∧
      (r.status = .pending ∨ r.status = .unknown →
        let ended := (External.settle id r.status provider (.success reference (some settled))).run.runAlone
          answer before
        (∃ h, ended.1 = .error h ∧ ended.2.tables = before.tables ∧ ¬ before.Calm) ∨
          ∃ x, ended.1 = .ok x ∧ before.tables.Closes r settled x ended.2.tables) := by
  obtain ⟨r, stored, quotes⟩ := run_quotes distinct given
  have ordered := run_ordered events distinct
  have standing := ordered.orderly.standing r (Rows.mem_of_find? stored)
  have number : r.id = id := Rows.key_of_find? stored
  subst number
  refine ⟨r, stored, fun reported => ?_, fun waits => ?_⟩
  · have even := run_records Transaction.even_lasting events r.id r stored
    exact even.evened quotes standing reported same
  · obtain ⟨_, _, reserves, _⟩ := standing.waiting waits
    obtain ⟨_, ended⟩ := SettleCall.ends ⟨r.id, r.status, provider, .success reference (some settled)⟩
      ordered.sound.honest answer
    rcases ended with ⟨h, stopped, failed, kept⟩ | ⟨x, p, answered, settles, tables⟩
    · exact .inl ⟨h, failed, kept, ordered.succeeds stored reserves.kind waits
        (fun _ uncounted => uncounted.uneven quotes same) stopped⟩
    · have closes := settles.closes stored quotes standing waits same
      rw [← tables] at closes
      exact .inr ⟨x, answered, closes⟩

-- A card of 15.01 dollars is bought at 1600.50, which comes to 24023.505 and so to 24023.50. Another
-- rate is recorded before its provider answers.
def quotedEvents : List Event :=
  let card := { gameCard with
    senderCurrency := "USD", fixedSenderDenominations := [.ofCents 1501 (by decide)] }
  let rate (cents : Nat) (small : cents < 2 ^ 96) : Event :=
    .begin (.recordRate ⟨.usd, .ngn, .ofCents cents small, ⟨0, 0⟩⟩)
  keyedEvents ++
    [rate 160050 (by decide), .advance 2, .begin (.sweepCatalog 50), .page 3 (.ok ⟨[card], 0, 1⟩),
      .advance 3, .advance 3,
      .begin (.purchaseGiftCard ⟨⟨some "cards", none, none⟩, 1000⟩
        { cardRequest with idempotencyKey := some "g" }),
      .advance 4, .advance 4, .advance 4, .advance 4, .advance 4, rate 150000 (by decide), .advance 5]

theorem run_settles_as_quoted_tied :
    ∃ r x t, (run quotedEvents).server.tables.transactions.getLast? = some r ∧
      r.amount = .ofCents 2402350 (by decide) ∧
      (run quotedEvents).server.tables.Closes r (.ofCents 1501 (by decide)) x t := by
  have given : (4, Call.order "cards" (Supply.transaction ⟨4⟩)
      (.giftCard 10 1 (.ofCents 1500 (by decide)) (.ofCents 1501 (by decide)) "USD" none)) ∈
        start.orders quotedEvents := by decide +kernel
  have shape : ((run quotedEvents).server.tables.transaction? (Supply.transaction ⟨4⟩)).map
      (fun r => (r.status, r.amount)) = some (.pending, .ofCents 2402350 (by decide)) := by
    decide +kernel
  obtain ⟨r, found, _, closes⟩ := run_settles_as_quoted quotedEvents
    (Gauge.distinct_of_le (by decide +kernel)) 4 "cards" (Supply.transaction ⟨4⟩) _ given
    (.ofCents 1501 (by decide)) rfl "cards" "ref" silence
  have last : (run quotedEvents).server.tables.transactions.getLast? =
      (run quotedEvents).server.tables.transaction? (Supply.transaction ⟨4⟩) := by decide +kernel
  rw [found] at shape last
  obtain ⟨status, amount⟩ := Prod.mk.inj (Option.some.inj shape)
  rcases closes (.inl status) with ⟨_, _, _, struck⟩ | ⟨x, _, closes⟩
  · exact absurd ⟨by decide +kernel, by decide +kernel, by decide +kernel⟩ struck
  · exact ⟨r, x, _, last, amount, closes⟩

end World
end Treasury
