import Treasury.Proofs.Decimal.Product
import Treasury.Proofs.Ledger.Whole
import Treasury.Proofs.Request.Single
import Treasury.Proofs.Settlement.Bookings

namespace Treasury

open Transactions

def Order.amount : Order → Decimal
  | .giftCard _ _ _ senderAmount _ _ => senderAmount
  | .payout amount _ _ _ _ => amount
  | .send amount _ _ _ _ => amount

-- In minor units of the currency, the amount is worth so much at the rate, or as it is without one.
def Currency.Worth (c : Currency) (rate : Option Decimal) (amount reserved : Decimal) : Prop :=
  ∃ product, amount.mul (rate.getD 1) = .ok product ∧ (c.round product).value = reserved.value

theorem Currency.Whole.worth {c : Currency} {amount : Decimal} (whole : c.Whole amount) :
    c.Worth none amount amount := by
  have same : amount.value * (1 : Decimal).value = amount.value := by rw [Decimal.value_one, mul_one]
  obtain ⟨product, made, exact⟩ := Decimal.mul_exact (by rw [same]; exact Decimal.fits_value amount)
  refine ⟨product, made, ?_⟩
  rw [same] at exact
  exact (Decimal.Whole.round_value (Decimal.whole_of_value whole exact)).trans exact

theorem Currency.Worth.of_value {c : Currency} {rate : Option Decimal} {amount reserved s : Decimal}
    (worth : c.Worth rate amount reserved) (same : s.value = amount.value) :
    c.Worth rate s reserved := by
  obtain ⟨product, made, amount⟩ := worth
  obtain ⟨again, made', exact⟩ := Decimal.mul_congr same made
  exact ⟨again, made', (Decimal.round_congr exact _).trans amount⟩

def Transaction.Quotes (r : Transaction) (amount : Decimal) : Prop :=
  r.currency.Worth r.exchangeRate amount r.amount

-- A record under the identifier was reserved for the amount.
def Tables.Quotes (t : Tables) (id : TransactionId) (amount : Decimal) : Prop :=
  ∃ r, t.transaction? id = some r ∧ r.Quotes amount

def Draft.Quotes (d : Draft) (amount : Decimal) : Prop :=
  d.currency.Worth d.exchangeRate amount d.amount

structure Transactions.Quote.Costed (q : Quote) : Prop where
  price : ∃ product, q.senderAmount.mul q.rate = .ok product ∧ q.amount = q.wallet.currency.round product
  home : q.senderCurrency = q.wallet.currency → q.rate = 1

theorem giftCardDraft_quotes {q : Quote} (costed : q.Costed) (r : GiftCardRequest) :
    (giftCardDraft r q).Quotes q.senderAmount := by
  obtain ⟨product, made, amount⟩ := costed.price
  refine ⟨product, ?_, congrArg Decimal.value amount.symm⟩
  change q.senderAmount.mul ((if q.senderCurrency = q.wallet.currency then none else some q.rate).getD 1) = _
  split
  · rename_i home
    rw [← made, costed.home home]
    rfl
  · exact made

theorem payoutDraft_quotes {r : PayoutRequest} {w : Wallet}
    (checked : checkedAmount r.amount r.currency = .ok a) (currency : w.currency = r.currency)
    (fee : Decimal) : (payoutDraft r a fee w).Quotes a := by
  rw [← currency] at checked
  exact (checkedAmount_whole checked).worth

theorem sendDraft_quotes {r : SendRequest} {w : Wallet}
    (checked : checkedAmount r.amount r.currency = .ok a) (currency : w.currency = r.currency)
    (fee : Decimal) : (sendDraft r a fee w).Quotes a := by
  rw [← currency] at checked
  exact (checkedAmount_whole checked).worth

-- The process orders nothing but what is known to be reserved for the amount. Known is what its last
-- act left in the rows, and `P` holds of its results.
def Flow.Prices : Flow α → (TransactionId → Decimal → Prop) →
    (α → (TransactionId → Decimal → Prop) → Prop) → Prop
  | .done a, known, P => P a known
  | .step act next, _, P => ∀ s : Server, s.Honest → (next (act s).1).Prices (act s).2.tables.Quotes P
  | .ask question next, known, P =>
    (∀ provider id order, question.order? = some (.order provider id order) → known id order.amount) ∧
      ∀ b, (next b).Prices known P

namespace Flow.Prices

variable {flow : Flow α} {known known' : TransactionId → Decimal → Prop}
  {P Q : α → (TransactionId → Decimal → Prop) → Prop}

theorem mono (prices : flow.Prices known P) (weaker : ∀ a known, P a known → Q a known) :
    flow.Prices known Q := by
  induction flow generalizing known with
  | done a => exact weaker a known prices
  | step act next ih => exact fun s honest => ih _ (prices s honest)
  | ask question next ih => exact ⟨prices.1, fun b => ih b (prices.2 b)⟩

theorem widen {R : α → Prop} (prices : flow.Prices known fun a _ => R a)
    (wider : ∀ id amount, known id amount → known' id amount) :
    flow.Prices known' fun a _ => R a := by
  induction flow generalizing known known' with
  | done a => exact prices
  | step act next ih => exact prices
  | ask question next ih =>
    refine ⟨fun provider id order asked => wider id _ (prices.1 provider id order asked), fun b => ?_⟩
    exact ih b (prices.2 b) wider

theorem bind {f : α → Flow β} {P : β → (TransactionId → Decimal → Prop) → Prop}
    (first : flow.Prices known fun a known' => (f a).Prices known' P) :
    (flow.bind f).Prices known P := by
  induction flow generalizing known with
  | done a => exact first
  | step act next ih => exact fun s honest => ih _ (first s honest)
  | ask question next ih => exact ⟨first.1, fun b => ih b (first.2 b)⟩

theorem of_quiet (quiet : flow.Quiet) : flow.Prices known fun _ _ => True := by
  induction quiet generalizing known with
  | done => trivial
  | step _ ih => exact fun s _ => ih _
  | ask quiet _ ih =>
    refine ⟨fun provider id order asked => ?_, fun b => ih b⟩
    cases quiet.symm.trans asked

theorem order? {id : TransactionId} (prices : flow.Prices known P)
    (waits : flow.order? = some (.order provider id order)) : known id order.amount := by
  cases flow with
  | ask question next => exact prices.1 provider id order waits
  | _ => cases waits

end Flow.Prices

def Task.Prices (task : Task ε α) (known : TransactionId → Decimal → Prop)
    (Q : α → (TransactionId → Decimal → Prop) → Prop) : Prop :=
  Flow.Prices task.run known fun r known' => ∀ a, r = .ok a → Q a known'

namespace Task.Prices

variable {task : Task ε α} {known : TransactionId → Decimal → Prop}
  {Q : α → (TransactionId → Decimal → Prop) → Prop}

theorem pure (post : Q a known) : Task.Prices (Pure.pure a : Task ε α) known Q := by
  intro b same
  cases same
  exact post

theorem halt {h : Halt ε} : Task.Prices (throw h : Task ε α) known Q := by
  intro b same
  cases same

theorem bind {task : Task ε β} {f : β → Task ε α}
    (first : task.Prices known fun b known' => (f b).Prices known' Q) :
    (task >>= f).Prices known Q := by
  refine Flow.Prices.bind (Flow.Prices.mono first ?_)
  intro r known' rest
  cases r with
  | error h => exact halt
  | ok b => exact rest b rfl

theorem checked {r : Except ε α} (post : ∀ a, r = .ok a → Q a known) :
    (Task.checked r).Prices known Q := by
  cases r with
  | ok a => exact pure (post a rfl)
  | error e => exact halt

theorem exactly {r : Except Decimal.Overflow α} (post : ∀ a, r = .ok a → Q a known) :
    (Task.exactly r : Task ε α).Prices known Q := by
  cases r with
  | ok a => exact pure (post a rfl)
  | error operation => exact halt

theorem found {o : Option α} (post : ∀ a, o = some a → Q a known) :
    (Task.found e o).Prices known Q := by
  cases o with
  | some a => exact pure (post a rfl)
  | none => exact halt

theorem told {task : Task δ α} {f : δ → ε} (prices : task.Prices known Q) :
    (task.told f).Prices known Q := by
  refine Flow.Prices.bind (Flow.Prices.mono prices ?_)
  intro r known' post
  cases r with
  | error h => exact halt
  | ok a => exact pure (post a rfl)

theorem report_then {f : Unit → Task ε α} (rest : ∀ known, (f ()).Prices known Q) :
    (Task.report event >>= f).Prices known Q := fun _ _ => rest _

theorem acts {E : Gauge → Tables → Halt ε → Prop}
    {Q' : Gauge → Tables → α → Gauge → Option Tables → Prop} (acts : task.Acts E Q')
    (post : ∀ g t a g' p, Q' g t a g' p → Q a (p.getD t).Quotes) : task.Prices known Q := by
  obtain ⟨act, same, ends⟩ := acts
  unfold Task.Prices
  rw [same]
  intro s honest
  have ended := ends s honest
  cases result : (act s).1 with
  | error h => exact halt
  | ok a =>
    obtain ⟨p, held, tables⟩ := ended.answer a result
    rw [tables]
    exact pure (post _ _ a _ p held)

end Task.Prices

namespace Transactions

variable {known : TransactionId → Decimal → Prop}

theorem execute_prices {d : Draft} (placed : d.Placed) (timeout : Nat) (provider : String)
    (order : Order) (quotes : d.Quotes order.amount) :
    (External.execute timeout d provider order).Prices known fun _ _ => True := by
  refine .bind (.acts (External.reserve_acts placed) fun g t found g' p places => ?_)
  cases places with
  | replayed => exact .report_then fun _ => .pure trivial
  | @reserved _ r _ _ _ t' _ shape _ created =>
    have reserved : t'.Quotes r.id order.amount := by
      refine ⟨r, created.stored, ?_⟩
      rw [shape]
      exact quotes
    obtain ⟨heard, same, quiet⟩ :=
      External.attempt_parts (ε := TransactionError) timeout (.order provider r.id order)
    dsimp only
    rw [same]
    refine ⟨?_, fun reply => ?_⟩
    · rintro _ _ _ ⟨⟩
      exact reserved
    · have answered : Task.Quiet (do
          let outcome ← heard reply
          External.settle r.id .pending provider outcome) :=
        .bind (quiet reply) fun outcome => External.settle_quiet _ _ _ _
      exact (Flow.Prices.of_quiet answered).mono fun _ _ _ _ _ => trivial

theorem charge_prices {id : WalletId} {draft : Wallet → Draft} {currency : Currency}
    (placed : ∀ w, w.currency = currency → (draft w).Placed)
    (quotes : ∀ w, w.currency = currency → (draft w).Quotes order.amount) :
    Task.Prices (do
      let w ← loadWallet id
      Task.checked (checkCurrency w currency)
      External.execute timeout (draft w) provider order) known fun _ _ => True := by
  refine .bind (.acts (loadWallet_acts id) fun _ _ w _ _ _ => ?_)
  refine .bind (.checked fun _ same => ?_)
  have same := checkCurrency_ok same
  exact execute_prices (placed w same) timeout provider order (quotes w same)

theorem payOut_prices (g : Gateway) (r : PayoutRequest) :
    (payOut g r).Prices known fun _ _ => True := by
  refine .bind (.checked fun a amount => ?_)
  refine .bind (.checked fun f fee => ?_)
  refine .bind (.checked fun provider _ => ?_)
  exact charge_prices (fun w same => .payout r w amount fee same)
    fun w same => payoutDraft_quotes amount same f

theorem sendCrypto_prices (g : Gateway) (r : SendRequest) :
    (sendCrypto g r).Prices known fun _ _ => True := by
  refine .bind (.checked fun a amount => ?_)
  refine .bind (.checked fun f fee => ?_)
  refine .bind (.checked fun provider _ => ?_)
  exact charge_prices (fun w same => .send r w amount fee same)
    fun w same => sendDraft_quotes amount same f

theorem rate_prices (base quote : Currency) :
    (Rates.get base quote).Prices known fun x _ => base = quote → x = 1 := by
  by_cases same : base = quote
  · rw [Rates.get, if_pos same]
    exact .pure fun _ => rfl
  · exact .acts (Rates.get_acts same) fun _ _ _ _ _ _ home => absurd home same

theorem quote_prices (r : GiftCardRequest) :
    (quote r).Prices known fun q _ => q.Priced ∧ q.Costed := by
  refine .bind (.acts (loadOffer_acts r) fun _ _ offer _ _ _ => ?_)
  obtain ⟨wallet, listing⟩ := offer
  refine .bind (.exactly fun price? _ => ?_)
  refine .bind (.found fun price _ => ?_)
  refine .bind (.checked fun senderCurrency _ => ?_)
  refine .bind (.exactly fun senderAmount _ => ?_)
  refine .bind (.told ((rate_prices senderCurrency wallet.currency).mono ?_))
  intro answered known' home rate same
  have home := home rate same
  refine .bind (.exactly fun product made => ?_)
  dsimp only
  split
  · exact .halt
  · rename_i positive
    exact .report_then fun _ => .pure ⟨⟨positive, product, rfl⟩, ⟨product, made, rfl⟩, home⟩

theorem purchaseGiftCard_prices (g : Gateway) (r : GiftCardRequest) :
    (purchaseGiftCard g r).Prices known fun _ _ => True := by
  unfold purchaseGiftCard
  split
  · exact .halt
  · split
    · exact .halt
    · refine .bind (.checked fun provider _ => ?_)
      have looked {known : TransactionId → Decimal → Prop} :
          (findByKey r.idempotencyKey).Prices known fun _ _ => True := by
        cases r.idempotencyKey with
        | none => exact .pure trivial
        | some k => exact .acts (findByKey_acts k) fun _ _ _ _ _ _ => trivial
      refine .bind (looked.mono fun answered _ _ found _ => ?_)
      cases found with
      | some t => exact .pure trivial
      | none =>
        refine .bind ((quote_prices r).mono fun answered _ costed q same => ?_)
        obtain ⟨priced, costed⟩ := costed q same
        exact execute_prices (.giftCard r q priced) _ _ _ (giftCardDraft_quotes costed r)

end Transactions

theorem Transactions.transfer_prices (r : TransferRequest) {known : TransactionId → Decimal → Prop} :
    (Transactions.transfer r).Prices known fun _ _ => True := by
  refine .bind (.checked fun a _ => ?_)
  refine .bind (.checked fun f _ => ?_)
  split
  · exact .halt
  · have rated {known : TransactionId → Decimal → Prop} :
        (creditedRate r).Prices known fun _ _ => True := by
      unfold creditedRate
      split
      · exact .pure trivial
      · refine .bind (.acts (loadWallet_acts _) fun _ _ w _ _ _ => ?_)
        split
        · exact .pure trivial
        · refine .bind (.told ((rate_prices _ _).mono fun answered _ _ x _ => ?_))
          exact .pure trivial
    have credits {known : TransactionId → Decimal → Prop} :
        (credited r a).Prices known fun _ _ => True := by
      refine .bind (rated.mono fun answered _ _ found _ => ?_)
      obtain ⟨currency, rate⟩ := found
      have finish (c : Credited) {known : TransactionId → Decimal → Prop} :
          Task.Prices (if c.amount ≤ 0 then Task.refuse .amountTooSmall else pure c :
            Task TransactionError Credited) known fun _ _ => True := by
        split
        · exact .halt
        · exact .pure trivial
      cases rate with
      | none => exact .bind (.pure (finish ⟨_, _, _⟩))
      | some x => exact .bind (.exactly fun product _ => .bind (.pure (finish ⟨_, _, _⟩)))
    refine .bind (credits.mono fun answered _ _ c _ => ?_)
    exact fun _ _ _ _ => trivial

theorem Request.prices (q : Request) (g : Gateway) {known : TransactionId → Decimal → Prop} :
    (q.task g).Prices known fun _ _ => True := by
  cases q with
  | deposit r => exact .bind (.checked fun _ _ => fun _ _ _ _ => trivial)
  | transfer r => exact transfer_prices r
  | giftCard r => exact purchaseGiftCard_prices g r
  | payout r => exact payOut_prices g r
  | send r => exact sendCrypto_prices g r

namespace World

variable {events : List Event} {e : Event} {i : Nat} {w : World} {id : TransactionId} {amount : Decimal}

-- Neither the amount nor the rate of a record ever changes.
theorem Ordered.quotes (ordered : w.Ordered) (distinct : (w.take e).server.gauge.Distinct)
    (quotes : w.server.tables.Quotes id amount) : (w.take e).server.tables.Quotes id amount := by
  obtain ⟨r, stored, worth⟩ := quotes
  cases ordered.turn distinct stored with
  | rests rests =>
    obtain ⟨r', there, same⟩ := rests.after stored
    have currency := congrArg Transaction.currency same
    have rate := congrArg Transaction.exchangeRate same
    have price := congrArg Transaction.amount same
    dsimp only [Transaction.untimed] at currency rate price
    refine ⟨r', there, ?_⟩
    rwa [Transaction.Quotes, currency, rate, price]
  | @moved _ noted _ moment c _ mine _ _ _ books shape =>
    subst mine
    refine ⟨r.Decided c noted moment, ?_, worth⟩
    rw [shape]
    exact Tables.decided_record stored books

theorem quotes_snoc (distinct : (run (events ++ [e])).server.gauge.Distinct)
    (quotes : (run events).server.tables.Quotes id amount) :
    (run (events ++ [e])).server.tables.Quotes id amount := by
  have ordered := run_ordered events (distinct_early distinct)
  rw [run_snoc] at distinct ⊢
  exact ordered.quotes distinct quotes

-- What an activity has ordered so far was reserved for the amount, and so is what it may yet order.
structure Priced (events : List Event) (i : Nat) (flow : Flow α) : Prop where
  ahead : flow.Prices (run events).server.tables.Quotes fun _ _ => True
  given : ∀ provider id order, Call.order provider id order ∈ ordersOf events i →
    (run events).server.tables.Quotes id order.amount

theorem Priced.goes {flow flow' : Flow α} (priced : Priced events i flow)
    (distinct : (run (events ++ [e])).server.gauge.Distinct)
    (ahead : flow'.Prices (run (events ++ [e])).server.tables.Quotes fun _ _ => True)
    (orders : ordersOf (events ++ [e]) i = ordersOf events i ++ flow'.order?.toList) :
    Priced (events ++ [e]) i flow' := by
  refine ⟨ahead, fun provider id order given => ?_⟩
  rw [orders, List.mem_append, Option.mem_toList] at given
  rcases given with before | now
  · exact quotes_snoc distinct (priced.given provider id order before)
  · exact ahead.order? now

theorem run_priced (events : List Event) (i : Nat) (q : Request) (g : Gateway)
    (there : (begun events)[i]? = some (q.operation g))
    (distinct : (run events).server.gauge.Distinct) :
    ∃ flow : Flow (Except (Halt TransactionError) Transaction), Priced events i flow := by
  have stays := follow (I := fun events a => (run events).server.gauge.Distinct →
    ∃ flow : Flow (Except (Halt TransactionError) Transaction), a = ⟨flow⟩ ∧ Priced events i flow) i
    (q.operation g) ?_ ?_ events there
  · obtain ⟨_, _, stays⟩ := stays
    obtain ⟨flow, _, priced⟩ := stays distinct
    exact ⟨flow, priced⟩
  · intro events first _
    have prices : Flow.Prices (q.task g).run
        (run (events ++ [.begin (q.operation g)])).server.tables.Quotes fun _ _ => True :=
      (q.prices g).mono fun _ _ _ => trivial
    refine ⟨(q.task g).run, q.operation_activity g, prices, fun provider id order given => ?_⟩
    have orders := order?_begin events (q.operation g)
    rw [first] at orders
    rw [ordersOf_given orders, ordersOf_unbegun (Nat.le_of_eq first), List.nil_append,
      Option.mem_toList, q.operation_activity g] at given
    exact prices.order? given
  · intro events e a a' _ turned before distinct
    obtain ⟨flow, rfl, priced⟩ := before (distinct_early distinct)
    cases turned with
    | waits elsewhere =>
      have ahead := priced.ahead.widen fun id amount => quotes_snoc (e := e) distinct
      refine ⟨flow, rfl, ahead, fun provider id order given => ?_⟩
      rw [ordersOf_silent elsewhere] at given
      exact quotes_snoc distinct (priced.given provider id order given)
    | acts _ taken orders =>
      refine ⟨_, rfl, priced.goes distinct ?_ (ordersOf_given orders)⟩
      have ahead := priced.ahead (run events).server (run_sound events).honest
      rw [run_snoc, taken]
      exact ahead
    | hears answer taken orders =>
      refine ⟨_, rfl, priced.goes distinct ?_ (ordersOf_given orders)⟩
      have ahead := priced.ahead.2 answer
      rw [run_snoc, taken]
      exact ahead

-- Every order of a run is for what was reserved under its correlation id.
theorem run_quotes (distinct : (run events).server.gauge.Distinct) {order : Order}
    (given : (i, Call.order provider id order) ∈ start.orders events) :
    (run events).server.tables.Quotes id order.amount := by
  obtain ⟨q, g, there, _⟩ := order_wrote given
  obtain ⟨flow, priced⟩ := run_priced events i q g there distinct
  refine priced.given provider id order (List.mem_map.mpr ⟨_, List.mem_filter.mpr ⟨given, ?_⟩, rfl⟩)
  simp

end World
end Treasury
