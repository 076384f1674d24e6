import Treasury.Proofs.World.Orders

namespace Treasury

open Transactions

-- How far an activity is: it has written nothing down, its transaction is written down and may be
-- ordered, or it orders nothing any more.
inductive Stage where
  | seeking
  | placed (id : TransactionId)
  | spent

namespace Stage

-- What an act of an activity may be that carries the key, and the stage after it.
inductive Acts (key : Option String) (s s' : Server) : Stage → Stage → Prop where
  | looks (same : s'.tables = s.tables) : Acts key s s' σ σ
  | places (created : Created s.gauge s.tables s'.gauge r legs s'.tables)
      (own : r.idempotencyKey = key) : Acts key s s' .seeking (.placed r.id)
  | spent : Acts key s s' .spent .spent

inductive Asks : Stage → Question β → Stage → Prop where
  | orders {id : TransactionId} : Asks (.placed id) (.call (.order provider id order)) .spent
  | other (quiet : question.order? = none) : Asks σ question σ

-- What a unit of work publishes at most that carries the key, and the stage after it.
inductive Publishes (key : Option String) (g : Gauge) (t : Tables) (g' : Gauge) :
    Option Tables → Stage → Prop where
  | nothing : Publishes key g t g' none .seeking
  | places (created : Created g t g' r legs t') (own : r.idempotencyKey = key) :
      Publishes key g t g' (some t') (.placed r.id)

theorem Publishes.acts {s s' : Server} (publishes : Publishes key s.gauge s.tables s'.gauge p σ)
    (tables : s'.tables = p.getD s.tables) : Acts key s s' .seeking σ := by
  cases publishes with
  | nothing => exact .looks tables
  | places created own =>
    rw [Option.getD_some] at tables
    rw [← tables] at created
    exact .places created own

end Stage

-- From a stage on, the process keeps to what it may do, and `P` holds of its results.
def Flow.Obeys (key : Option String) : Flow α → Stage → (α → Stage → Prop) → Prop
  | .done a, σ, P => P a σ
  | .step act next, σ, P => ∀ s : Server, s.Honest →
      ∃ σ', σ.Acts key s (act s).2 σ' ∧ (next (act s).1).Obeys key σ' P
  | .ask question next, σ, P => ∃ σ', σ.Asks question σ' ∧ ∀ b, (next b).Obeys key σ' P

namespace Flow.Obeys

variable {key : Option String} {flow : Flow α} {σ : Stage} {P Q : α → Stage → Prop}

theorem mono (obeys : flow.Obeys key σ P) (weaker : ∀ a σ', P a σ' → Q a σ') :
    flow.Obeys key σ Q := by
  induction flow generalizing σ with
  | done a => exact weaker a σ obeys
  | step act next ih =>
    intro s honest
    obtain ⟨σ', acts, rest⟩ := obeys s honest
    exact ⟨σ', acts, ih _ rest⟩
  | ask question next ih =>
    obtain ⟨σ', asks, rest⟩ := obeys
    exact ⟨σ', asks, fun b => ih b (rest b)⟩

theorem bind {f : α → Flow β} {P : β → Stage → Prop}
    (first : flow.Obeys key σ fun a σ' => (f a).Obeys key σ' P) : (flow.bind f).Obeys key σ P := by
  induction flow generalizing σ with
  | done a => exact first
  | step act next ih =>
    intro s honest
    obtain ⟨σ', acts, rest⟩ := first s honest
    exact ⟨σ', acts, ih _ rest⟩
  | ask question next ih =>
    obtain ⟨σ', asks, rest⟩ := first
    exact ⟨σ', asks, fun b => ih b (rest b)⟩

theorem of_quiet (quiet : flow.Quiet) : flow.Obeys key .spent fun _ _ => True := by
  induction quiet with
  | done => trivial
  | step _ ih => exact fun s _ => ⟨.spent, .spent, ih _⟩
  | ask quiet _ ih => exact ⟨.spent, .other quiet, ih⟩

-- The one order that goes out names the transaction that was written down.
theorem order? {c : Call} (obeys : flow.Obeys key σ P) (waits : flow.order? = some c) :
    σ = .placed c.correlation := by
  cases flow with
  | ask question next =>
    obtain ⟨_, asks, _⟩ := obeys
    cases asks with
    | orders =>
      cases waits
      rfl
    | other quiet => cases quiet.symm.trans waits
  | _ => cases waits

theorem silent (obeys : flow.Obeys key σ P) (apart : ∀ id, σ ≠ .placed id) : flow.order? = none := by
  cases waits : flow.order? with
  | none => rfl
  | some c => exact absurd (obeys.order? waits) (apart c.correlation)

end Flow.Obeys

-- `Q` holds of the answer of the task and the stage that comes with it.
def Task.Obeys (key : Option String) (task : Task ε α) (σ : Stage) (Q : α → Stage → Prop) : Prop :=
  Flow.Obeys key task.run σ fun r σ' => ∀ a, r = .ok a → Q a σ'

namespace Task.Obeys

variable {key : Option String} {task : Task ε α} {σ : Stage} {Q : α → Stage → Prop}

theorem pure (post : Q a σ) : Task.Obeys key (Pure.pure a : Task ε α) σ Q := by
  intro b same
  cases same
  exact post

theorem halt {h : Halt ε} : Task.Obeys key (throw h : Task ε α) σ Q := by
  intro b same
  cases same

theorem bind {task : Task ε β} {f : β → Task ε α}
    (first : task.Obeys key σ fun b σ' => (f b).Obeys key σ' Q) : (task >>= f).Obeys key σ Q := by
  refine Flow.Obeys.bind (Flow.Obeys.mono first ?_)
  intro r σ' rest
  cases r with
  | error h => exact halt
  | ok b => exact rest b rfl

theorem checked {r : Except ε α} (post : ∀ a, r = .ok a → Q a σ) :
    (Task.checked r).Obeys key σ Q := by
  cases r with
  | ok a => exact pure (post a rfl)
  | error e => exact halt

theorem exactly {r : Except Decimal.Overflow α} (post : ∀ a, r = .ok a → Q a σ) :
    (Task.exactly r : Task ε α).Obeys key σ Q := by
  cases r with
  | ok a => exact pure (post a rfl)
  | error operation => exact halt

theorem found {o : Option α} (post : ∀ a, o = some a → Q a σ) :
    (Task.found e o).Obeys key σ Q := by
  cases o with
  | some a => exact pure (post a rfl)
  | none => exact halt

theorem told {task : Task δ α} {f : δ → ε} (obeys : task.Obeys key σ Q) :
    (task.told f).Obeys key σ Q := by
  refine Flow.Obeys.bind (Flow.Obeys.mono obeys ?_)
  intro r σ' post
  cases r with
  | error h => exact halt
  | ok a => exact pure (post a rfl)

theorem report_then {f : Unit → Task ε α} (rest : (f ()).Obeys key σ Q) :
    (Task.report event >>= f).Obeys key σ Q := by
  intro s _
  exact ⟨σ, .looks rfl, rest⟩

theorem acts {E : Gauge → Tables → Halt ε → Prop}
    {Q' : Gauge → Tables → α → Gauge → Option Tables → Prop} (acts : task.Acts E Q')
    (post : ∀ g t a g' p, Q' g t a g' p → ∃ σ, Stage.Publishes key g t g' p σ ∧ Q a σ) :
    task.Obeys key .seeking Q := by
  obtain ⟨act, same, ends⟩ := acts
  unfold Task.Obeys
  rw [same]
  intro s honest
  have ended := ends s honest
  cases result : (act s).1 with
  | error h => exact ⟨.seeking, .looks (ended.refusal h result).1, halt⟩
  | ok a =>
    obtain ⟨p, held, tables⟩ := ended.answer a result
    obtain ⟨σ, publishes, post⟩ := post _ _ a _ p held
    exact ⟨σ, publishes.acts tables, pure post⟩

end Task.Obeys

-- The task only looks, and `P` holds of what it sees.
def Task.Looks (key : Option String) (task : Task ε α) (P : α → Prop) : Prop :=
  task.Obeys key .seeking fun a σ => σ = .seeking ∧ P a

namespace Task.Looks

variable {key : Option String} {task : Task ε α} {P : α → Prop}

theorem acts {E : Gauge → Tables → Halt ε → Prop}
    {Q' : Gauge → Tables → α → Gauge → Option Tables → Prop} (acts : task.Acts E Q')
    (post : ∀ g t a g' p, Q' g t a g' p → p = none ∧ P a) : task.Looks key P := by
  refine Task.Obeys.acts acts fun g t a g' p held => ?_
  obtain ⟨nothing, post⟩ := post g t a g' p held
  subst nothing
  exact ⟨.seeking, .nothing, rfl, post⟩

theorem bind {task : Task ε β} {f : β → Task ε α} {P : β → Prop} {Q : α → Stage → Prop}
    (looks : task.Looks key P) (rest : ∀ b, P b → (f b).Obeys key .seeking Q) :
    (task >>= f).Obeys key .seeking Q := by
  refine .bind (Flow.Obeys.mono looks ?_)
  intro r σ post b same
  obtain ⟨seeking, post⟩ := post b same
  rw [seeking]
  exact rest b post

end Task.Looks

def Task.Orders (task : Task ε α) (key : Option String) : Prop :=
  task.Obeys key .seeking fun _ _ => True

namespace Transactions

theorem Answers.publishes (answers : Answers key p g t a g' published) :
    ∃ σ, Stage.Publishes key g t g' published σ ∧ True := by
  cases answers with
  | replayed => exact ⟨_, .nothing, trivial⟩
  | created created keyed => exact ⟨_, .places created keyed, trivial⟩

theorem deposit_orders (r : DepositRequest) : (deposit r).Orders r.idempotencyKey := by
  refine .bind (.checked fun a amount => ?_)
  exact .acts (.unit fun _ _ => depositIn_runs amount) fun _ _ _ _ _ answers => answers.publishes

theorem rate_looks (base quote : Currency) : (Rates.get base quote).Looks key fun _ => True := by
  by_cases same : base = quote
  · rw [Rates.get, if_pos same]
    exact .pure ⟨rfl, trivial⟩
  · exact .acts (Rates.get_acts same) fun _ _ _ _ _ known => ⟨known.2, trivial⟩

theorem wallet_looks (id : WalletId) : (loadWallet id).Looks key fun w => w.id = id :=
  .acts (loadWallet_acts id) fun _ _ _ _ _ loaded => ⟨loaded.2.2, Rows.key_of_find? loaded.1⟩

theorem creditedRate_looks (r : TransferRequest) :
    (creditedRate r).Looks key fun known => known.2 = none → known.1 = r.currency := by
  unfold creditedRate
  split
  · exact .pure ⟨rfl, fun _ => rfl⟩
  · refine .bind (wallet_looks _) fun w _ => ?_
    split
    · rename_i same
      exact .pure ⟨rfl, fun _ => same⟩
    · exact Task.Looks.bind (.told (rate_looks _ _)) fun x _ => .pure ⟨rfl, nofun⟩

theorem credited_looks (r : TransferRequest) (amount : Decimal) :
    (credited r amount).Looks key fun c => c.Of r amount := by
  refine .bind (creditedRate_looks r) fun known same => ?_
  obtain ⟨currency, rate⟩ := known
  have positive (c : Credited) (worth : c.Of r amount) : Task.Looks key (if c.amount ≤ 0 then
      Task.refuse .amountTooSmall else pure c : Task TransactionError Credited)
      fun c => c.Of r amount := by
    split
    · exact .halt
    · exact .pure ⟨rfl, worth⟩
  cases rate with
  | none => exact .bind (.pure (positive ⟨_, _, _⟩ (.inl ⟨same rfl, rfl⟩)))
  | some x =>
    exact .bind (.exactly fun product _ => .bind (.pure (positive ⟨_, _, _⟩ (.inr ⟨product, rfl⟩))))

theorem transfer_orders (r : TransferRequest) : (transfer r).Orders r.idempotencyKey := by
  refine .bind (.checked fun a amount => ?_)
  refine .bind (.checked fun f fee => ?_)
  split
  · exact .halt
  · rename_i apart
    refine (credited_looks r a).bind fun c worth => ?_
    exact .acts (.unit fun _ _ => transferIn_runs amount fee apart worth)
      fun _ _ _ _ _ answers => answers.publishes

theorem execute_orders {d : Draft} (placed : d.Placed) (timeout : Nat) (provider : String)
    (order : Order) : (External.execute timeout d provider order).Orders d.idempotencyKey := by
  refine .bind (.acts (External.reserve_acts placed) fun g t found g' p places => ?_)
  cases places with
  | replayed => exact ⟨_, .nothing, .report_then (.pure trivial)⟩
  | @reserved _ r _ _ _ _ _ shape _ created =>
    refine ⟨_, .places created (by rw [shape]; rfl), ?_⟩
    obtain ⟨heard, same, quiet⟩ :=
      External.attempt_parts (ε := TransactionError) timeout (.order provider r.id order)
    dsimp only
    rw [same]
    refine ⟨.spent, .orders, fun reply => ?_⟩
    have answered : Task.Quiet (do
        let outcome ← heard reply
        External.settle r.id .pending provider outcome) :=
      .bind (quiet reply) fun outcome => External.settle_quiet _ _ _ _
    exact (Flow.Obeys.of_quiet answered).mono fun _ _ _ _ _ => trivial

theorem charge_orders {id : WalletId} {draft : Wallet → Draft} {currency : Currency}
    (placed : ∀ w, w.currency = currency → (draft w).Placed)
    (own : ∀ w, (draft w).idempotencyKey = key) :
    Task.Orders (do
      let w ← loadWallet id
      Task.checked (checkCurrency w currency)
      External.execute timeout (draft w) provider order) key := by
  refine (wallet_looks id).bind fun w _ => ?_
  refine .bind (.checked fun _ same => ?_)
  rw [← own w]
  exact execute_orders (placed w (checkCurrency_ok same)) timeout provider order

theorem payOut_orders (g : Gateway) (r : PayoutRequest) : (payOut g r).Orders r.idempotencyKey := by
  refine .bind (.checked fun a amount => ?_)
  refine .bind (.checked fun f fee => ?_)
  refine .bind (.checked fun provider _ => ?_)
  exact charge_orders (fun w same => .payout r w amount fee same) fun _ => rfl

theorem sendCrypto_orders (g : Gateway) (r : SendRequest) :
    (sendCrypto g r).Orders r.idempotencyKey := by
  refine .bind (.checked fun a amount => ?_)
  refine .bind (.checked fun f fee => ?_)
  refine .bind (.checked fun provider _ => ?_)
  exact charge_orders (fun w same => .send r w amount fee same) fun _ => rfl

theorem quote_looks (r : GiftCardRequest) : (quote r).Looks key fun q => q.Priced := by
  have offer : (loadOffer r).Looks key fun _ => True :=
    .acts (loadOffer_acts r) fun _ _ _ _ _ loaded => ⟨loaded.2, trivial⟩
  refine .bind offer fun known _ => ?_
  obtain ⟨wallet, listing⟩ := known
  refine .bind (.exactly fun price? _ => ?_)
  refine .bind (.found fun price _ => ?_)
  refine .bind (.checked fun senderCurrency _ => ?_)
  refine .bind (.exactly fun senderAmount _ => ?_)
  refine Task.Looks.bind (.told (rate_looks _ _)) fun rate _ => ?_
  refine .bind (.exactly fun product _ => ?_)
  dsimp only
  split
  · exact .halt
  · rename_i positive
    exact .report_then (.pure ⟨rfl, positive, product, rfl⟩)

theorem purchaseGiftCard_orders (g : Gateway) (r : GiftCardRequest) :
    (purchaseGiftCard g r).Orders r.idempotencyKey := by
  unfold purchaseGiftCard
  split
  · exact .halt
  · split
    · exact .halt
    · refine .bind (.checked fun provider _ => ?_)
      have looked : (findByKey r.idempotencyKey).Looks r.idempotencyKey fun _ => True := by
        cases r.idempotencyKey with
        | none => exact .pure ⟨rfl, trivial⟩
        | some k => exact .acts (findByKey_acts k) fun _ _ _ _ _ looked => ⟨looked.2, trivial⟩
      refine looked.bind fun known _ => ?_
      cases known with
      | some t => exact .pure trivial
      | none =>
        refine (quote_looks r).bind fun q priced => ?_
        exact execute_orders (.giftCard r q priced) _ _ _

end Transactions

theorem Request.orders (q : Request) (g : Gateway) : (q.task g).Orders q.key := by
  cases q with
  | deposit r => exact deposit_orders r
  | transfer r => exact transfer_orders r
  | giftCard r => exact purchaseGiftCard_orders g r
  | payout r => exact payOut_orders g r
  | send r => exact sendCrypto_orders g r

end Treasury
