import Treasury.Proofs.Decimal.Product
import Treasury.Proofs.Reconciliation.Serving
import Treasury.Proofs.Settlement.Cost

namespace Treasury

open External
open Decimal (Fits)

def Transaction.rate (r : Transaction) : Decimal := r.exchangeRate.getD 1

def Transaction.shortfall? (r : Transaction) : Option Decimal :=
  r.details.settlement?.bind (·.shortfall)

-- What a payment costs without its fee, by the total that its provider reports.
inductive Transaction.Price (r : Transaction) : Option Decimal → Decimal → Prop where
  | estimated : Price r none r.amount
  | reported (made : settled.mul r.rate = .ok product)
      (exact : product.value = settled.value * r.rate.value) :
      Price r (some settled) (r.currency.round product)

-- A price that is not above the reserved amount, or by no more than an active wallet holds.
def Transaction.Payable (r : Transaction) (w : Wallet) (price : Decimal) : Prop :=
  price.value ≤ r.amount.value ∨
    w.status = .active ∧ price.value - r.amount.value ≤ w.balance.value

-- The sums, differences and products that a success takes are exact ones.
structure Transaction.Countable (r : Transaction) (w : Wallet) (settled : Option Decimal) : Prop where
  total : Fits (r.amount.value + r.fee.value)
  product : ∀ s, settled = some s → Fits (s.value * r.rate.value)
  difference : ∀ price, r.Price settled price → Fits (price.value - r.amount.value)
  balance : ∀ price, r.Price settled price → r.Payable w price →
    Fits (w.balance.value - (price.value - r.amount.value))

-- What a note says of a price. An adjustment is told as what the wallet gets back.
structure Settlement.Tells (noted : Settlement) (r : Transaction) (w : Wallet) (price : Decimal) :
    Prop where
  paid : r.Payable w price → noted.shortfall = none ∧ noted.adjustment.map Decimal.value =
    if price.value = r.amount.value then none else some (r.amount.value - price.value)
  unpaid : ¬ r.Payable w price → noted.adjustment = none ∧
    noted.shortfall.map Decimal.value = some (price.value - r.amount.value)

-- What a success leaves of a payment: its record, and what its wallet has paid in all.
structure Tables.Concludes (t : Tables) (r : Transaction) (w : Wallet) (settled : Option Decimal)
    (price : Decimal) (x : Transaction) (t' : Tables) : Prop where
  record : ∃ moment, t'.transaction? r.id = some { x with updatedAt := moment }
  status : x.status = .succeeded
  reported : x.reported? = settled
  paid : r.Payable w price → t'.netOf r = -(price.value + r.fee.value) ∧ x.shortfall? = none ∧
    x.adjustment?.map Decimal.value =
      if price.value = r.amount.value then none else some (r.amount.value - price.value)
  unpaid : ¬ r.Payable w price → t'.entries = t.entries ∧
    t'.netOf r = -(r.amount.value + r.fee.value) ∧ x.adjustment? = none ∧
    x.shortfall?.map Decimal.value = some (price.value - r.amount.value)

namespace Transaction

variable {r : Transaction} {w : Wallet} {price difference : Decimal}

theorem actualAmount_price (countable : r.Countable w (some s)) :
    ∃ price, actualAmount r s = .ok price ∧ r.Price (some s) price := by
  obtain ⟨product, made, exact⟩ := Decimal.mul_exact (countable.product s rfl)
  refine ⟨r.currency.round product, ?_, .reported made exact⟩
  rw [actualAmount]
  change Except.map r.currency.round (s.mul r.rate) = _
  rw [made]
  rfl

theorem price_of_actual (countable : r.Countable w (some s)) (actual : actualAmount r s = .ok price) :
    r.Price (some s) price := by
  obtain ⟨same, found, priced⟩ := actualAmount_price countable
  cases actual.symm.trans found
  exact priced

theorem Price.actual (priced : r.Price (some s) price) : actualAmount r s = .ok price := by
  cases priced with
  | reported made => exact congrArg (Except.map r.currency.round) made

-- The three ways in which a price is settled are told apart by what the wallet can bear.
theorem payable_iff (taken : difference.value = price.value - r.amount.value) :
    r.Payable w price ↔ difference.value ≤ 0 ∨ w.canDebit = true ∧ difference ≤ w.balance := by
  rw [Payable, Decimal.le_iff_value, taken, sub_nonpos, Wallet.canDebit, beq_iff_eq]

theorem Countable.taken (countable : r.Countable w (some s)) (sound : ¬ w.balance < 0)
    (actual : actualAmount r s = .ok price) (taken : price.sub r.amount = .ok difference) :
    (∃ b, w.balance.sub difference = .ok b) ∧ ∃ b, w.balance.add (-difference) = .ok b := by
  have priced := price_of_actual countable actual
  have amount := Decimal.sub_value taken (countable.difference price priced)
  by_cases payable : r.Payable w price
  · have fits := countable.balance price priced payable
    rw [← amount] at fits
    obtain ⟨b, left, _⟩ := Decimal.sub_exact fits
    rw [sub_eq_add_neg, ← Decimal.value_neg] at fits
    obtain ⟨b', added, _⟩ := Decimal.add_exact fits
    exact ⟨⟨b, left⟩, b', added⟩
  -- What the wallet cannot bear is more than nothing, and no sum with it is wider than either.
  · rw [payable_iff amount, not_or, not_le] at payable
    have positive : ¬ difference ≤ 0 := by
      rw [Decimal.le_iff_value, Decimal.value_zero, not_le]
      exact payable.1
    have above : ¬ difference < 0 := by
      rw [Decimal.lt_iff_value, Decimal.value_zero, not_lt]
      exact le_of_lt payable.1
    obtain ⟨b, left⟩ := Decimal.sub_some sound above
    exact ⟨⟨b, left⟩, b, Decimal.add_neg_of_sub (Decimal.not_isZero_of_pos positive) left⟩

theorem Countable.counted (countable : r.Countable w settled) (stored : t.wallet? r.walletId = some w)
    (sound : ¬ w.balance < 0) : ¬ Uncounted t r (.success reference settled) operation := by
  intro uncounted
  cases uncounted with
  | price stopped =>
    obtain ⟨price, actual, _⟩ := actualAmount_price countable
    cases stopped.symm.trans actual
  | difference actual stopped =>
    have priced := price_of_actual countable actual
    obtain ⟨difference, taken, _⟩ := Decimal.sub_exact (countable.difference _ priced)
    cases stopped.symm.trans taken
  | given actual taken there stopped =>
    cases stored.symm.trans there
    obtain ⟨_, b, added⟩ := countable.taken sound actual taken
    cases stopped.symm.trans added
  | charged actual taken there stopped =>
    cases stored.symm.trans there
    obtain ⟨⟨b, left⟩, _⟩ := countable.taken sound actual taken
    cases stopped.symm.trans left

end Transaction

namespace Resolves

variable {r : Transaction} {w : Wallet} {noted : Settlement}

theorem tells (resolves : Resolves t r provider (.success reference settled) legs noted)
    (countable : r.Countable w settled) (stored : t.wallet? r.walletId = some w) :
    noted.settledAmount = settled ∧ ∃ price, r.Price settled price ∧ noted.Tells r w price := by
  have even {price : Decimal} {noted : Settlement} (same : price.value = r.amount.value)
      (unmoved : noted.adjustment = none) (covered : noted.shortfall = none) :
      noted.Tells r w price := by
    refine ⟨fun _ => ⟨covered, ?_⟩, fun unpayable => absurd (.inl (le_of_eq same)) unpayable⟩
    rw [unmoved, if_pos same]
    rfl
  cases resolves with
  | accepted => exact ⟨rfl, r.amount, .estimated, even rfl rfl rfl⟩
  | exact actual taken nothing =>
    have priced := Transaction.price_of_actual countable actual
    have amount := Decimal.sub_value taken (countable.difference _ priced)
    rw [Decimal.isZero_iff_value.mp nothing] at amount
    exact ⟨rfl, _, priced, even (sub_eq_zero.mp amount.symm) rfl rfl⟩
  | @adjusted _ price difference w' _ actual taken something there =>
    cases stored.symm.trans there
    have priced := Transaction.price_of_actual countable actual
    have amount := Decimal.sub_value taken (countable.difference _ priced)
    have other : price.value ≠ r.amount.value := by
      rw [Ne, ← sub_eq_zero, ← amount, ← Decimal.isZero_iff_value, something]
      exact Bool.false_ne_true
    have back : (-difference).value = r.amount.value - price.value := by
      rw [Decimal.value_neg, amount, neg_sub]
    have payable := Transaction.payable_iff (w := w) amount
    unfold Difference.of
    split
    · rename_i below
      rw [Decimal.lt_iff_value, Decimal.value_zero] at below
      refine ⟨rfl, price, priced, fun _ => ⟨rfl, ?_⟩, fun un => ?_⟩
      · rw [if_neg other, ← back]
        rfl
      · exact absurd (payable.mpr (.inl (le_of_lt below))) un
    · rename_i above
      rw [Decimal.lt_iff_value, Decimal.value_zero, not_lt] at above
      split
      · rename_i covered
        refine ⟨rfl, price, priced, fun _ => ⟨rfl, ?_⟩, fun un => ?_⟩
        · rw [if_neg other, ← back]
          rfl
        · exact absurd (payable.mpr (.inr covered)) un
      · rename_i short
        refine ⟨rfl, price, priced, fun pays => ?_, fun _ => ⟨rfl, ?_⟩⟩
        · rcases payable.mp pays with low | covered
          · rw [amount] at low above
            exact absurd (sub_eq_zero.mp (le_antisymm low above)) other
          · exact absurd covered short
        · rw [← amount]
          rfl

theorem adjusts (resolves : Resolves t r provider (.success reference settled) legs noted)
    (stored : t.wallet? r.walletId = some w) (currency : w.currency = r.currency) :
    legs.map Leg.line = adjustmentLines r provider noted.adjustment := by
  cases resolves with
  | accepted => rfl
  | exact => rfl
  | adjusted _ _ _ there =>
    cases stored.symm.trans there
    exact differenceLegs_lines (Rows.key_of_find? stored) currency _ _

end Resolves

theorem net_adjusted (r : Transaction) (provider : String) (x : Option Decimal) :
    net r.walletId (adjustmentLines r provider x) = (x.map Decimal.value).getD 0 := by
  cases x with
  | none => rfl
  | some x => exact net_adjustment r provider x

-- What waits is reserved, and nothing else was booked for it.
theorem Standing.waiting {r : Transaction} (standing : Standing r lines)
    (waits : r.status = .pending ∨ r.status = .unknown) :
    ∃ provider total, r.Reserves total ∧ lines = reservationLines r provider total := by
  cases standing with
  | booked opening own same =>
    have succeeded := opening.succeeded own
    rw [same] at waits
    rcases waits with waits | waits <;> cases waits.symm.trans succeeded
  | reserved reserves => exact ⟨_, _, reserves, rfl⟩
  | compensated _ failed => rcases waits with waits | waits <;> cases waits.symm.trans failed
  | settled _ succeeded => rcases waits with waits | waits <;> cases waits.symm.trans succeeded

theorem Settles.succeeds {r x : Transaction} {t : Tables}
    (settles : Settles ⟨r.id, r.status, provider, .success reference settled⟩ t (.settled x) p)
    (stored : t.transaction? r.id = some r) (waits : r.status = .pending ∨ r.status = .unknown)
    (reserves : r.Reserves total) :
    ∃ legs noted t' moment, Resolves t r provider (.success reference settled) legs noted ∧
      Books r.id t legs t' ∧ (r.details.settle noted).settlement? = some noted ∧
      let update := SettleCall.update ⟨r.id, r.status, provider, .success reference settled⟩ r noted
      x = update.apply r ∧ p = some (t'.withChanged r.id update.apply moment) := by
  cases settles with
  | stale there moved =>
    cases stored.symm.trans there
    exact absurd rfl moved
  | touched _ _ again =>
    rcases waits with waits | waits <;> cases waits.symm.trans again.symm
  | @decided _ legs noted t' moment there _ _ resolves books =>
    cases stored.symm.trans there
    exact ⟨legs, noted, t', moment, resolves, books, Details.settle_noted reserves.platform noted,
      rfl, rfl⟩

theorem Settles.concludes {r x : Transaction} {w : Wallet} {t : Tables}
    (settles : Settles ⟨r.id, r.status, provider, .success reference settled⟩ t (.settled x) p)
    (stored : t.transaction? r.id = some r) (held : t.wallet? r.walletId = some w)
    (currency : w.currency = r.currency) (standing : Standing r ((t.entriesOf r.id).map Entry.line))
    (waits : r.status = .pending ∨ r.status = .unknown) (countable : r.Countable w settled) :
    ∃ price, r.Price settled price ∧ t.Concludes r w settled price x (p.getD t) := by
  obtain ⟨reserver, total, reserves, lines⟩ := standing.waiting waits
  obtain ⟨legs, noted, t', moment, resolves, books, kept, rfl, rfl⟩ :=
    settles.succeeds stored waits reserves
  obtain ⟨reported, price, priced, tells⟩ := resolves.tells countable held
  have moved := resolves.adjusts held currency
  have paid : total.value = r.amount.value + r.fee.value := r.total_exact countable.total reserves.sum
  -- The entries are those of the reservation and those of the adjustment.
  have sum : t'.netOf r =
      -(r.amount.value + r.fee.value) + (noted.adjustment.map Decimal.value).getD 0 := by
    rw [Tables.netOf, books.entriesOf_same, lines, moved, net_append, net_reservation, net_adjusted,
      paid]
  refine ⟨price, priced, ⟨moment, Tables.decided_record
    (c := ⟨r.id, r.status, provider, .success reference settled⟩) stored books⟩, rfl, ?_,
    fun pays => ?_, fun short => ?_⟩
  · rw [← reported]
    exact congrArg (Option.bind · _) kept
  · obtain ⟨covered, adjusted⟩ := tells.paid pays
    refine ⟨?_, (congrArg (Option.bind · _) kept).trans covered,
      (congrArg (Option.map Decimal.value <| Option.bind · _) kept).trans adjusted⟩
    change t'.netOf r = _
    rw [sum, adjusted]
    split
    · rename_i same
      rw [same]
      exact add_zero _
    · change _ + (r.amount.value - price.value) = _
      ring
  · obtain ⟨unmoved, lacking⟩ := tells.unpaid short
    rw [unmoved] at sum moved
    have none : legs = [] := List.map_eq_nil_iff.mp moved
    subst none
    cases books with
    | nil =>
      refine ⟨rfl, sum.trans (add_zero _), (congrArg (Option.bind · _) kept).trans unmoved, ?_⟩
      exact (congrArg (Option.map Decimal.value <| Option.bind · _) kept).trans lacking

namespace World

-- On a calm server a success that can be counted is booked.
theorem Ordered.succeeds {w : World} (ordered : w.Ordered)
    (stored : w.server.tables.transaction? r.id = some r) (external : r.kind.isExternal = true)
    (waits : r.status = .pending ∨ r.status = .unknown)
    (counted : ∀ operation, ¬ Uncounted w.server.tables r (.success reference settled) operation)
    (stopped : (SettleCall.act ⟨r.id, r.status, provider, .success reference settled⟩ w.server).1 =
      .error h) : ¬ w.server.Calm := by
  intro calm
  have open_ : r.status.canBecome .succeeded = true := canBecome_of_waits waits rfl
  obtain ⟨operation, rfl⟩ := ordered.stopped calm stored external (fun _ => open_) stopped
  have serves := SettleCall.work_serves (c := ⟨r.id, r.status, provider, .success reference settled⟩)
    ordered.orderly.single stored rfl w.server.gauge
  obtain ⟨_, stops⟩ := (w.server.unit_ended serves ordered.sound.honest).refusal _ stopped
  obtain ⟨_, _, uncounted⟩ := stops calm _ rfl
  exact counted _ uncounted

-- Whatever success a payment that waits is settled with, it costs its price and its fee, and its
-- note says what was moved; only a price that the wallet cannot bear leaves it at what was
-- reserved. Nothing but a fault keeps the success from being booked, and then nothing is.
theorem run_success_priced (events : List Event) (distinct : (run events).server.gauge.Distinct)
    (r : Transaction) (stored : r ∈ (run events).server.tables.transactions)
    (external : r.kind.isExternal = true) (waits : r.status = .pending ∨ r.status = .unknown)
    (provider reference : String) (settled : Option Decimal)
    (countable : ∀ w, (run events).server.tables.wallet? r.walletId = some w → r.Countable w settled)
    (answer : {β : Type} → Question β → β) :
    let before := (run events).server
    let ended := (External.settle r.id r.status provider (.success reference settled)).run.runAlone
      answer before
    ∃ w, before.tables.wallet? r.walletId = some w ∧
      ((∃ h, ended.1 = .error h ∧ ended.2.tables = before.tables ∧ ¬ before.Calm) ∨
        ∃ price x, ended.1 = .ok x ∧ r.Price settled price ∧
          before.tables.Concludes r w settled price x ended.2.tables) := by
  have ordered := run_ordered events distinct
  have found := Rows.find?_of_mem ordered.orderly.single stored
  obtain ⟨w, held, currency⟩ := Option.map_eq_some_iff.mp (ordered.orderly.held r stored)
  refine ⟨w, held, ?_⟩
  obtain ⟨_, ended⟩ := SettleCall.ends ⟨r.id, r.status, provider, .success reference settled⟩
    ordered.sound.honest answer
  rcases ended with ⟨h, stopped, failed, kept⟩ | ⟨x, p, answered, settles, tables⟩
  · have sound := (ordered.balanced.backed (Rows.mem_of_find? held)).covered
    exact .inl ⟨h, failed, kept, ordered.succeeds found external waits
      (fun _ => (countable w held).counted held sound) stopped⟩
  · obtain ⟨price, priced, concludes⟩ := settles.concludes found held currency
      (ordered.orderly.standing r stored) waits (countable w held)
    rw [← tables] at concludes
    exact .inr ⟨price, x, answered, priced, concludes⟩

-- A payout of 10.00 whose outcome was lost. Two more are charged, and 14.50 cover them.
theorem run_success_priced_dearer :
    let before := (run (payoutEvents (.unknown none))).server
    ∃ r w price x t, before.tables.transactions.getLast? = some r ∧ r.status = .unknown ∧
      r.Payable w price ∧
      before.tables.Concludes r w (some (.ofCents 1200 (by decide))) price x t := by
  obtain ⟨r, w, last, status, external, amount, fee, held, balance, active, actual, rate⟩ :
      ∃ r w, (run (payoutEvents (.unknown none))).server.tables.transactions.getLast? = some r ∧
        r.status = .unknown ∧ r.kind.isExternal = true ∧ r.amount = .ofCents 1000 (by decide) ∧
        r.fee = .ofCents 50 (by decide) ∧
        (run (payoutEvents (.unknown none))).server.tables.wallet? r.walletId = some w ∧
        w.balance = .ofCents 1450 (by decide) ∧ w.status = .active ∧
        actualAmount r (.ofCents 1200 (by decide)) = .ok (.ofCents 1200 (by decide)) ∧ r.rate = 1 :=
    ⟨_, _, rfl, rfl, rfl, rfl, rfl, rfl, rfl, rfl, rfl, rfl⟩
  have only {price : Decimal} (priced : r.Price (some (.ofCents 1200 (by decide))) price) :
      price = .ofCents 1200 (by decide) := Except.ok.inj (priced.actual.symm.trans actual)
  have countable : r.Countable w (some (.ofCents 1200 (by decide))) := by
    refine ⟨payout_fits amount fee, ?_, fun price priced => ?_, fun price priced _ => ?_⟩
    · rintro _ ⟨⟩
      rw [rate, Decimal.value_one, mul_one]
      exact Decimal.fits_value _
    · refine ⟨.ofCents 200 (by decide), ?_⟩
      rw [only priced, amount]
      norm_num [Decimal.value, Decimal.units, Decimal.ofCents]
    · refine ⟨.ofCents 1250 (by decide), ?_⟩
      rw [only priced, amount, balance]
      norm_num [Decimal.value, Decimal.units, Decimal.ofCents]
  obtain ⟨w', again, ended⟩ := run_success_priced (payoutEvents (.unknown none))
    (Gauge.distinct_of_le (by decide +kernel)) r (List.mem_of_getLast? last) external (.inr status)
    "bank" "ref" (some (.ofCents 1200 (by decide)))
    (fun w' again => Option.some.inj (held.symm.trans again) ▸ countable) silence
  cases held.symm.trans again
  rcases ended with ⟨_, _, _, struck⟩ | ⟨price, x, _, priced, concludes⟩
  · exact absurd ⟨rfl, rfl, rfl⟩ struck
  · refine ⟨r, w, price, x, _, last, status, .inr ⟨active, ?_⟩, concludes⟩
    rw [only priced, amount, balance]
    norm_num [Decimal.value, Decimal.units, Decimal.ofCents]

end World
end Treasury
