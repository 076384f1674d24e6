import Treasury.Proofs.Service.Abides
import Treasury.Proofs.World.Basic

namespace Treasury

open Transactions

def Registry.Names (providers : Registry) (platform : Platform) (provider : String) : Prop :=
  providers.name? platform = some provider

theorem Registry.names_of_ok {providers : Registry} {name : String}
    (ok : providers.provider platform = .ok name) : providers.Names platform name := by
  unfold Registry.provider at ok
  cases known : providers.name? platform with
  | none =>
    rw [known] at ok
    cases ok
  | some registered =>
    rw [known] at ok
    cases ok
    exact known

-- One unit of a payment: money is reserved under the key, an outcome is booked, or the payment is
-- put behind the others.
inductive Payment (names : Platform → String → Prop) (key : Option String) (g : Gauge) (t : Tables)
    (g' : Gauge) : Tables → Prop where
  | reserved (created : Created g t g' r (reservationLegs r w provider total) t')
      (named : names r.platform provider) (keyed : r.idempotencyKey = key) : Payment names key g t g' t'
  | settled (c : SettleCall) (settles : Settles c t answer (some t'))
      (named : ∀ r, t.transaction? c.id = some r → names r.platform c.provider) :
      Payment names key g t g' t'
  | deferred (id : TransactionId) (moment : Instant) :
      Payment names key g t g' (t.withTouched id moment)

def CreatesOwn (key : Option String) (g : Gauge) (t : Tables) (g' : Gauge) (t' : Tables) : Prop :=
  ∃ r legs, Created g t g' r legs t' ∧ r.kind.isExternal = false ∧ r.idempotencyKey = key

-- What a unit of an operation does that changes the rows at all.
def Operation.Effect (g : Gauge) (t : Tables) (g' : Gauge) (t' : Tables) : Operation → Prop
  | .openWallet .. | .requestWallet .. => ∃ w, t.wallet? w.id = none ∧ t' = t.withWallet w
  | .setWalletStatus id status => ∃ moment, t' = t.withStatus id status moment
  | .recordRate r => t' = t.withRate r
  | .deposit r => CreatesOwn r.idempotencyKey g t g' t'
  | .transfer r => CreatesOwn r.idempotencyKey g t g' t'
  | .purchaseGiftCard gateway r => Payment gateway.providers.Names r.idempotencyKey g t g' t'
  | .payOut gateway r => Payment gateway.providers.Names r.idempotencyKey g t g' t'
  | .sendCrypto gateway r => Payment gateway.providers.Names r.idempotencyKey g t g' t'
  | .reconcile _ providers _ => Payment providers.Names none g t g' t'
  | .settle c => ∃ answer, Settles c t answer (some t')
  | .defer id _ => ∃ moment, t' = t.withTouched id moment
  | .trackReferral referrer referee bonus => ∃ r, Rewards.Tracks referrer referee bonus g t r g' (some t')
  | .requestWithdrawal policy user amount => ∃ w, Rewards.Requests policy user amount g t w g' (some t')
  | .updateWithdrawal id status => ∃ w, Rewards.Decides id status g t w g' (some t')
  | .sweepCatalog _ => ∃ item moment, t' = t.withItem item moment
  | .wallet _ | .walletOf .. | .verifyWallet _ | .rate .. | .convert .. | .transaction _ | .entries _
  | .earnings _ | .withdrawal _ => False

namespace External

variable {s : Server} {names : Platform → String → Prop} {key : Option String}

theorem attempt_abides (timeout : Nat) (call : Call) :
    (attempt timeout call : Task ε Outcome).Abides effect s fun _ _ => True := by
  apply Task.Abides.after .ask
  intro reply s'
  split
  · exact .after .report fun _ _ => .pure trivial
  · exact .after .report fun _ _ => .pure trivial

-- The record is still there when its outcome is booked, on the platform where it was.
theorem settle_abides (c : SettleCall) (holds : s.Holds c.id platform) (named : names platform c.provider) :
    (settle c.id c.expected c.provider c.outcome).Abides (Payment names key) s fun _ _ => True := by
  apply Task.Abides.settle c
  intro s₁ r g' t' came settles
  apply Payment.settled c settles
  intro x stored
  obtain ⟨there, stored', same⟩ := holds.later came
  cases stored.symm.trans stored'
  rw [same]
  exact named

theorem execute_abides {d : Draft} (placed : d.Placed) (named : names d.details.platform provider)
    (timeout : Nat) (order : Order) :
    (execute timeout d provider order).Abides (Payment names d.idempotencyKey) s fun _ _ => True := by
  have reserves : (reserve d provider).Abides (Payment names d.idempotencyKey) s fun found s' =>
      ∀ r, found = .reserved r → s'.Retains s' ∧ s'.Holds r.id d.details.platform := by
    apply Task.Abides.acts (reserve_acts placed)
    · intro s₁ found g' t' came places _
      cases places with
      | reserved stored shape sum created =>
        refine .reserved created ?_ ?_
        · rw [shape]
          exact named
        · rw [shape]
          rfl
    · intro s₁ s₂ found p came kept places tables r reserved
      subst reserved
      cases places with
      | reserved stored shape sum created =>
        refine ⟨kept.again, r, ?_, ?_⟩
        · rw [tables]
          exact created.stored
        · rw [shape]
          rfl
  apply Task.Abides.bind reserves
  intro found s₁ holds
  cases found with
  | replayed r => exact .after .report fun _ _ => .pure trivial
  | reserved r =>
    obtain ⟨start, there⟩ := holds r rfl
    apply Task.Abides.later start (attempt_abides _ _)
    intro outcome s₂ came
    exact settle_abides ⟨r.id, .pending, provider, outcome⟩ (there.later came) named

theorem defer_abides (id : TransactionId) (expected : TransactionStatus)
    (does : ∀ g t g' moment, effect g t g' (t.withTouched id moment)) :
    (defer id expected).Abides effect s fun _ _ => True := by
  apply Task.Abides.unit (defer_acts id expected)
  intro g t _ g' t' defers changed
  cases defers with
  | touched => exact does ..
  | elsewhere => exact absurd rfl changed

end External
namespace Wallets

variable {s : Server}

theorem create_abides (owner : Int) (currency : Currency) (walletType : WalletType) :
    (create owner currency walletType).Abides
      (fun _ t _ t' => ∃ w, t.wallet? w.id = none ∧ t' = t.withWallet w) s fun _ _ => True := by
  apply Task.Abides.unit (create_acts owner currency walletType)
  intro g t w g' t' opens _
  cases opens with
  | opened issued single free shape =>
    refine ⟨w, ?_, rfl⟩
    rw [shape]
    exact free

theorem setStatus_abides (id : WalletId) (status : WalletStatus) :
    (setStatus id status).Abides (fun _ t _ t' => ∃ moment, t' = t.withStatus id status moment) s
      fun _ _ => True := by
  apply Task.Abides.unit (setStatus_acts id status)
  intro g t w g' t' restates _
  cases restates with
  | restated => exact ⟨_, rfl⟩

end Wallets

namespace Rates

variable {s : Server}

theorem get_abides (base quote : Currency) : (get base quote).Abides effect s fun _ _ => True := by
  by_cases same : base = quote
  · unfold get
    rw [if_pos same]
    exact .pure trivial
  · exact .reads ((get_acts same).reads fun _ _ _ _ _ found => found.2)

theorem convert_abides (amount : Decimal) (base quote : Currency) :
    (convert amount base quote).Abides effect s fun _ _ => True := by
  apply Task.Abides.after (get_abides base quote)
  intro rate s₁
  apply Task.Abides.after .exactly
  exact fun _ _ => .pure trivial

theorem record_abides (r : Rate) :
    (record r).Abides (fun _ t _ t' => t' = t.withRate r) s fun _ _ => True := by
  by_cases low : r.rate ≤ 0
  · unfold record
    rw [if_pos low]
    exact .refuse
  · apply Task.Abides.unit (record_acts low)
    intro g t a g' t' recorded _
    exact Option.some.inj recorded.2

end Rates

namespace Transactions

variable {s : Server} {names : Platform → String → Prop}

theorem loadWallet_abides (id : WalletId) : (loadWallet id).Abides effect s fun _ _ => True :=
  .reads ((loadWallet_acts id).reads fun _ _ _ _ _ loaded => loaded.2.2)

theorem findByKey_abides (key : Option String) : (findByKey key).Abides effect s fun _ _ => True := by
  cases key with
  | none => exact .pure trivial
  | some key => exact .reads ((findByKey_acts key).reads fun _ _ _ _ _ known => known.2)

theorem created_own {kind : TransactionKind} {id : WalletId} (own : kind.isExternal = false)
    (answers : Answers key ⟨kind, id⟩ g t r g' (some t')) : CreatesOwn key g t g' t' := by
  cases answers with
  | created created keyed alike =>
    have same : r.kind = kind := congrArg Purpose.kind alike
    exact ⟨r, _, created, same ▸ own, keyed⟩

theorem deposit_abides (r : DepositRequest) :
    (deposit r).Abides (CreatesOwn r.idempotencyKey) s fun _ _ => True := by
  apply Task.Abides.bind (.checked (P := fun a _ => checkedAmount r.amount r.currency = .ok a) ?_)
  · intro a s₁ amount
    apply Task.Abides.unit (.unit fun _ _ => depositIn_runs amount)
    exact fun _ _ _ _ _ answers _ => created_own rfl answers
  · exact fun _ amount => amount

theorem creditedRate_abides (r : TransferRequest) : (creditedRate r).Abides effect s
    fun known _ => known.2 = none → known.1 = r.currency := by
  unfold creditedRate
  split
  · exact .pure fun _ => rfl
  · apply Task.Abides.after (loadWallet_abides _)
    intro w s₁
    split
    · rename_i same
      exact .pure fun _ => same
    · apply Task.Abides.after (.told (Rates.get_abides _ _))
      exact fun _ _ => .pure nofun

theorem credited_abides (r : TransferRequest) (amount : Decimal) :
    (credited r amount).Abides effect s fun c _ => c.Of r amount := by
  have positive (c : Credited) (s₁ : Server) (worth : c.Of r amount) :
      (if c.amount ≤ 0 then Task.refuse .amountTooSmall else pure c :
        Task TransactionError Credited).Abides effect s₁ fun c _ => c.Of r amount := by
    split
    · exact .refuse
    · exact .pure worth
  apply Task.Abides.bind (creditedRate_abides r)
  intro known s₁ same
  obtain ⟨currency, rate⟩ := known
  cases rate with
  | none =>
    apply Task.Abides.bind (.pure (P := fun c _ => c = amount) rfl)
    intro converted s₂ sent
    exact positive ⟨_, _, _⟩ s₂ (.inl ⟨same rfl, sent⟩)
  | some x =>
    apply Task.Abides.after .exactly
    intro product s₂
    apply Task.Abides.bind (.pure (P := fun c _ => c = currency.round product) rfl)
    intro converted s₃ sent
    exact positive ⟨_, _, _⟩ s₃ (.inr ⟨product, sent⟩)

theorem transfer_abides (r : TransferRequest) :
    (transfer r).Abides (CreatesOwn r.idempotencyKey) s fun _ _ => True := by
  apply Task.Abides.bind (.checked (P := fun a _ => checkedAmount r.amount r.currency = .ok a)
    fun _ amount => amount)
  intro a s₁ amount
  apply Task.Abides.bind (.checked (P := fun f _ => checkedFee r.fee r.currency = .ok f)
    fun _ fee => fee)
  intro f s₂ fee
  split
  · exact .refuse
  · rename_i apart
    apply Task.Abides.bind (credited_abides r a)
    intro c s₃ worth
    apply Task.Abides.unit (.unit fun _ _ => transferIn_runs amount fee apart worth)
    exact fun _ _ _ _ _ answers _ => created_own rfl answers

theorem quote_abides (r : GiftCardRequest) : (quote r).Abides effect s fun q _ => q.Priced := by
  apply Task.Abides.after (.reads ((loadOffer_acts r).reads fun _ _ _ _ _ loaded => loaded.2))
  intro offer s₁
  apply Task.Abides.after .exactly
  intro price? s₂
  apply Task.Abides.after .found
  intro price s₃
  apply Task.Abides.after (.checked fun _ _ => trivial)
  intro senderCurrency s₄
  apply Task.Abides.after .exactly
  intro senderAmount s₅
  apply Task.Abides.after (.told (Rates.get_abides _ _))
  intro rate s₆
  apply Task.Abides.after .exactly
  intro product s₇
  dsimp only
  split
  · exact .refuse
  · rename_i positive
    apply Task.Abides.after .report
    exact fun _ _ => .pure ⟨positive, product, rfl⟩

theorem provider_abides (providers : Registry) (platform : Platform) :
    (Task.checked (providers.provider platform)).Abides effect s
      fun provider _ => providers.Names platform provider :=
  .checked fun _ ok => Registry.names_of_ok ok

theorem purchaseGiftCard_abides (g : Gateway) (r : GiftCardRequest) :
    (purchaseGiftCard g r).Abides (Payment g.providers.Names r.idempotencyKey) s fun _ _ => True := by
  unfold purchaseGiftCard
  split
  · exact .refuse
  · split
    · exact .refuse
    · apply Task.Abides.bind (provider_abides ..)
      intro provider s₁ named
      apply Task.Abides.after (findByKey_abides _)
      intro known s₂
      cases known with
      | some x => exact .pure trivial
      | none =>
        apply Task.Abides.bind (quote_abides r)
        intro q s₃ priced
        exact External.execute_abides (.giftCard r q priced) named _ _

theorem charge_abides {amount fee : Decimal} {currency : Currency} {id : WalletId}
    {platform : Platform} {key : Option String} (draft : Decimal → Decimal → Wallet → Draft)
    (placed : ∀ a f w, checkedAmount amount currency = .ok a → checkedFee fee currency = .ok f →
      w.currency = currency → (draft a f w).Placed ∧ (draft a f w).details.platform = platform ∧
        (draft a f w).idempotencyKey = key)
    (g : Gateway) (order : Decimal → Order) :
    (do
      let a ← Task.checked (checkedAmount amount currency)
      let f ← Task.checked (checkedFee fee currency)
      let provider ← Task.checked (g.providers.provider platform)
      let w ← loadWallet id
      Task.checked (checkCurrency w currency)
      External.execute g.timeout (draft a f w) provider (order a)).Abides
        (Payment g.providers.Names key) s fun _ _ => True := by
  apply Task.Abides.bind (.checked (P := fun a _ => checkedAmount amount currency = .ok a)
    fun _ amount => amount)
  intro a s₁ amount
  apply Task.Abides.bind (.checked (P := fun f _ => checkedFee fee currency = .ok f) fun _ fee => fee)
  intro f s₂ fee
  apply Task.Abides.bind (provider_abides ..)
  intro provider s₃ named
  apply Task.Abides.after (loadWallet_abides _)
  intro w s₄
  apply Task.Abides.bind (.checked (P := fun _ _ => w.currency = currency)
    fun _ same => checkCurrency_ok same)
  intro _ s₅ same
  obtain ⟨placed, on, keyed⟩ := placed a f w amount fee same
  rw [← keyed]
  exact External.execute_abides placed (by rwa [on]) _ _

theorem payOut_abides (g : Gateway) (r : PayoutRequest) :
    (payOut g r).Abides (Payment g.providers.Names r.idempotencyKey) s fun _ _ => True :=
  charge_abides (payoutDraft r)
    (fun _ _ w amount fee same => ⟨.payout r w amount fee same, rfl, rfl⟩) g (payoutOrder r)

theorem sendCrypto_abides (g : Gateway) (r : SendRequest) :
    (sendCrypto g r).Abides (Payment g.providers.Names r.idempotencyKey) s fun _ _ => True :=
  charge_abides (sendDraft r)
    (fun _ _ w amount fee same => ⟨.send r w amount fee same, rfl, rfl⟩) g (sendOrder r)

end Transactions
namespace Reconciliation

variable {s : Server} {providers : Registry} {names : Platform → String → Prop} {key : Option String}

theorem defer_abides (t : Transaction) :
    (defer t).Abides (Payment names key) s fun _ _ => True := by
  apply Task.Abides.after (.attempt (External.defer_abides t.id t.status ?_))
  · intro tried s₁
    cases tried with
    | ok => exact .pure trivial
    | error e => exact .report
  · exact fun _ _ _ moment => .deferred t.id moment

theorem resolve_abides (timeout : Nat) (t : Transaction) (r : Report) (start : s.Retains s)
    (holds : s.Holds t.id t.platform) :
    (resolve timeout providers t r).Abides (Payment providers.Names key) s fun _ _ => True := by
  unfold resolve
  split
  · exact .pure trivial
  · dsimp only
    split
    · apply Task.Abides.after .report
      intro _ s₁
      exact .after (defer_abides t) fun _ _ => .pure trivial
    · rename_i provider registered
      have named := Registry.names_of_ok registered
      apply Task.Abides.later start (External.attempt_abides _ _)
      intro outcome s₁ came
      apply Task.Abides.after (.attempt (External.settle_abides ⟨t.id, t.status, provider, outcome⟩
        (holds.later came) named))
      intro tried s₂
      cases tried with
      | ok t => exact .pure trivial
      | error e =>
        apply Task.Abides.after .report
        intro _ s₃
        exact .after (defer_abides t) fun _ _ => .pure trivial

theorem resolveAll_abides (timeout : Nat) (batch : List Transaction) (r : Report) (start : s.Retains s)
    (holds : ∀ t ∈ batch, s.Holds t.id t.platform) :
    (resolveAll timeout providers batch r).Abides (Payment providers.Names key) s fun _ _ => True := by
  induction batch generalizing s r with
  | nil => exact .pure trivial
  | cons t rest ih =>
    apply Task.Abides.later start
    · exact resolve_abides timeout t r start (holds t List.mem_cons_self)
    · intro r s₁ came
      apply ih r came.again
      intro x later
      exact (holds x (List.mem_cons_of_mem t later)).later came

theorem scan_abides (plan : Plan) : (scan plan).Abides effect s
    fun batch s' => s'.Retains s' ∧ ∀ t ∈ batch, s'.Holds t.id t.platform := by
  apply Task.Abides.after .now
  intro now s₁
  -- Otherwise the cutoff would be computed.
  generalize plan.cutoff now = limit
  apply Task.Abides.after .settled
  intro cutoff s₂
  have found : (Task.unit (TransactionError.storage "scan stale transactions")
      ((Store.findStaleTransactions [.pending, .unknown] cutoff plan.batchSize).told
        (.storage "scan stale transactions"))).Acts (fun _ _ _ => True)
      fun _ t batch _ p => (∀ r ∈ batch, r ∈ t.transactions) ∧ p = none := by
    refine .unit fun g t => .keep (.told (.read ⟨?_, rfl⟩))
    intro r mem
    have sorted := List.mem_mergeSort.mp (List.mem_of_mem_take mem)
    exact (List.mem_filter.mp sorted).1
  apply Task.Abides.acts found
  · intro s₃ batch g' t' _ reads
    cases reads.2
  · intro s₃ s₄ batch p came kept reads _
    refine ⟨kept.again, ?_⟩
    intro r mem
    have stored := Rows.find?_of_mem came.single (reads.1 r mem)
    exact Server.Holds.later ⟨r, stored, rfl⟩ kept

theorem run_abides (timeout : Nat) (providers : Registry) (plan : Plan) :
    (run timeout providers plan).Abides (Payment providers.Names key) s fun _ _ => True := by
  apply Task.Abides.bind (scan_abides plan)
  intro batch s₁ scanned
  obtain ⟨start, holds⟩ := scanned
  split
  · exact .after .report fun _ _ => .pure trivial
  · apply Task.Abides.later start .report
    intro _ s₂ came
    apply Task.Abides.after (resolveAll_abides timeout batch .empty came.again
      fun t mem => (holds t mem).later came)
    intro r s₃
    dsimp only
    split
    · apply Task.Abides.after .report
      intro _ s₄
      exact .after .report fun _ _ => .pure trivial
    · exact .after .report fun _ _ => .pure trivial

end Reconciliation

namespace Rewards

variable {s : Server}

theorem track_abides (referrer referee : Int) (bonus : Decimal) :
    (track referrer referee bonus).Abides
      (fun g t g' t' => ∃ r, Tracks referrer referee bonus g t r g' (some t')) s fun _ _ => True := by
  by_cases own : referrer = referee
  · unfold track
    rw [if_pos own]
    exact .refuse
  · by_cases low : bonus ≤ 0
    · unfold track
      rw [if_neg own, if_pos low]
      exact .refuse
    · apply Task.Abides.unit (track_acts own low)
      exact fun _ _ r _ _ tracks _ => ⟨r, tracks⟩

theorem request_abides (policy : RewardPolicy) (user : Int) (amount : Decimal) :
    (request policy user amount).Abides
      (fun g t g' t' => ∃ w, Requests policy user amount g t w g' (some t')) s fun _ _ => True := by
  by_cases low : amount ≤ 0
  · unfold request
    rw [if_pos low]
    exact .refuse
  · by_cases below : amount < policy.threshold
    · unfold request
      rw [if_neg low, if_pos below]
      exact .refuse
    · apply Task.Abides.unit (request_acts low below)
      exact fun _ _ w _ _ requests _ => ⟨w, requests⟩

theorem update_abides (id : WithdrawalId) (status : WithdrawalStatus) :
    (update id status).Abides
      (fun g t g' t' => ∃ w, Decides id status g t w g' (some t')) s fun _ _ => True := by
  apply Task.Abides.unit (update_acts id status)
  exact fun _ _ w _ _ decides _ => ⟨w, decides⟩

end Rewards

namespace CatalogSweep

variable {s : Server}

def Lists (t t' : Tables) : Prop := ∃ item moment, t' = t.withItem item moment

theorem upsertItem_abides (item : VendorItem) :
    (upsertItem item).Abides (fun _ t _ t' => Lists t t') s fun _ _ => True := by
  cases sound : flaw? item with
  | some reason =>
    unfold upsertItem
    rw [sound]
    exact .refuse
  | none =>
    apply Task.Abides.unit (upsertItem_acts sound)
    intro g t _ g' t' listed _
    obtain ⟨moment, same, _⟩ := listed
    exact ⟨item, moment, Option.some.inj same⟩

theorem takeItems_abides (r : Report) (items : List VendorItem) :
    (takeItems r items).Abides (fun _ t _ t' => Lists t t') s fun _ _ => True := by
  induction items generalizing s r with
  | nil => exact .pure trivial
  | cons item rest ih =>
    refine .after ?_ fun r s₁ => ih r
    apply Task.Abides.after (.attempt (upsertItem_abides item))
    intro tried s₁
    cases tried with
    | ok => exact .pure trivial
    | error e => exact .after .report fun _ _ => .pure trivial

theorem finished_abides (r : Report) : (finished r).Abides effect s fun _ _ => True :=
  .after .report fun _ _ => .pure trivial

theorem unfetched_abides (number : Nat) (e : CatalogError) (r : Report) {first later : Log.Event} :
    (if number = 0 then do
      Task.report first
      Task.refuse e
    else do
      Task.report later
      finished r : Task CatalogError Report).Abides effect s fun _ _ => True := by
  split
  · exact .after .report fun _ _ => .refuse
  · exact .after .report fun _ _ => finished_abides r

theorem sweepFrom_abides (pageSize left : Nat) (r : Report) :
    (sweepFrom pageSize left r).Abides (fun _ t _ t' => Lists t t') s fun _ _ => True := by
  induction left generalizing s r with
  | zero =>
    unfold sweepFrom
    apply Task.Abides.after .ask
    intro answer s₁
    cases answer with
    | error e => exact unfetched_abides _ _ _
    | ok page => exact .breakOff
  | succ left ih =>
    unfold sweepFrom
    apply Task.Abides.after .ask
    intro answer s₁
    cases answer with
    | error e => exact unfetched_abides _ _ _
    | ok page =>
      apply Task.Abides.after (takeItems_abides _ _)
      intro r s₂
      split
      · exact .breakOff
      · split
        · exact finished_abides r
        · exact ih r

end CatalogSweep

-- Whatever else goes on, each unit of an operation has the effect of that operation or none.
theorem Operation.abides (operation : Operation) (s : Server) :
    operation.activity.flow.Abides (fun g t g' t' => operation.Effect g t g' t') s
      fun _ _ => True := by
  have told {ε α : Type} {task : Task ε α} {effect : Gauge → Tables → Gauge → Tables → Prop}
      (abides : task.Abides effect s fun _ _ => True) : task.run.Abides effect s fun _ _ => True :=
    Flow.Abides.mono abides fun _ _ _ => trivial
  cases operation with
  | openWallet owner currency walletType => exact told (Wallets.create_abides owner currency walletType)
  | requestWallet owner r =>
    refine told (.after (.checked fun _ _ => trivial) fun parsed s₁ => ?_)
    exact Wallets.create_abides owner parsed.1 parsed.2
  | wallet id => exact told (.reads (Wallets.get_finds id).reads)
  | walletOf owner currency => exact told (.reads (Wallets.ofOwner_finds owner currency).reads)
  | setWalletStatus id status => exact told (Wallets.setStatus_abides id status)
  | verifyWallet id => exact told (.reads (Wallets.verify_reads id))
  | recordRate r => exact told (Rates.record_abides r)
  | rate base quote => exact told (Rates.get_abides base quote)
  | convert amount base quote => exact told (Rates.convert_abides amount base quote)
  | deposit r => exact told (Transactions.deposit_abides r)
  | transfer r => exact told (Transactions.transfer_abides r)
  | purchaseGiftCard g r => exact told (Transactions.purchaseGiftCard_abides g r)
  | payOut g r => exact told (Transactions.payOut_abides g r)
  | sendCrypto g r => exact told (Transactions.sendCrypto_abides g r)
  | transaction id => exact told (.reads (Transactions.get_finds id).reads)
  | entries id => exact told (.reads (Transactions.entries_reads id))
  | settle c => exact told (.settle c fun _ r _ _ _ settles => ⟨.settled r, settles⟩)
  | defer id expected =>
    exact told (External.defer_abides id expected fun _ _ _ moment => ⟨moment, rfl⟩)
  | reconcile timeout providers plan =>
    exact told (Reconciliation.run_abides timeout providers plan)
  | trackReferral referrer referee bonus => exact told (Rewards.track_abides referrer referee bonus)
  | earnings user => exact told (.reads (Rewards.earnings_reads user))
  | requestWithdrawal policy user amount => exact told (Rewards.request_abides policy user amount)
  | withdrawal id => exact told (.reads (Rewards.get_finds id).reads)
  | updateWithdrawal id status => exact told (Rewards.update_abides id status)
  | sweepCatalog pageSize => exact told (CatalogSweep.sweepFrom_abides _ _ _)

end Treasury
