import Treasury.Proofs.Store.Calls

namespace Treasury

-- A call of the store with its arguments.
inductive StoreCall where
  | insertWallet (w : Wallet)
  | findWallet (id : WalletId)
  | findWalletForUpdate (id : WalletId)
  | findWalletByOwner (owner : Int) (currency : Currency)
  | updateWalletBalance (id : WalletId) (balance : Decimal)
  | updateWalletStatus (id : WalletId) (status : WalletStatus)
  | insertTransaction (r : Transaction)
  | findTransaction (id : TransactionId)
  | findTransactionByKey (key : String)
  | updateTransactionIf (id : TransactionId) (expected : TransactionStatus) (u : TransactionUpdate)
  | touchTransactionIf (id : TransactionId) (expected : TransactionStatus)
  | findStaleTransactions (statuses : List TransactionStatus) (olderThan : Instant) (limit : Nat)
  | insertLedgerEntry (e : Entry)
  | ledgerEntriesForTransaction (id : TransactionId)
  | ledgerSumForWallet (id : WalletId)
  | insertRate (r : Rate)
  | latestRate (base quote : Currency) (moment : Instant)
  | insertReferral (r : Referral)
  | findReferralByReferee (referee : Int)
  | findEarnings (user : Int)
  | lockEarnings (user : Int)
  | upsertEarnings (e : Earnings)
  | insertWithdrawalRequest (w : Withdrawal)
  | findWithdrawalRequest (id : WithdrawalId)
  | findWithdrawalRequestForUpdate (id : WithdrawalId)
  | updateWithdrawalRequest (id : WithdrawalId) (status : WithdrawalStatus)
      (payout : Option TransactionId)
  | upsertBrand (b : Brand)
  | upsertCategory (c : ProductCategory)
  | upsertCountry (c : Country)
  | upsertProduct (p : Product)
  | replaceLogoUrls (product : Int) (urls : List String)
  | replaceDenominations (product : Int) (kind : DenominationKind) (amounts : List Decimal)
  | upsertRedeemInstruction (product : Int) (r : RedeemInstruction)
  | findProductListing (product : Int)
  | catalogCounts

namespace StoreCall

def work : StoreCall → Work StoreError Unit
  | insertWallet w => Store.insertWallet w
  | findWallet id => discard (Store.findWallet id)
  | findWalletForUpdate id => discard (Store.findWalletForUpdate id)
  | findWalletByOwner owner currency => discard (Store.findWalletByOwner owner currency)
  | updateWalletBalance id balance => Store.updateWalletBalance id balance
  | updateWalletStatus id status => Store.updateWalletStatus id status
  | insertTransaction r => Store.insertTransaction r
  | findTransaction id => discard (Store.findTransaction id)
  | findTransactionByKey key => discard (Store.findTransactionByKey key)
  | updateTransactionIf id expected u => discard (Store.updateTransactionIf id expected u)
  | touchTransactionIf id expected => discard (Store.touchTransactionIf id expected)
  | findStaleTransactions statuses olderThan limit =>
    discard (Store.findStaleTransactions statuses olderThan limit)
  | insertLedgerEntry e => Store.insertLedgerEntry e
  | ledgerEntriesForTransaction id => discard (Store.ledgerEntriesForTransaction id)
  | ledgerSumForWallet id => discard (Store.ledgerSumForWallet id)
  | insertRate r => Store.insertRate r
  | latestRate base quote moment => discard (Store.latestRate base quote moment)
  | insertReferral r => Store.insertReferral r
  | findReferralByReferee referee => discard (Store.findReferralByReferee referee)
  | findEarnings user => discard (Store.findEarnings user)
  | lockEarnings user => discard (Store.lockEarnings user)
  | upsertEarnings e => Store.upsertEarnings e
  | insertWithdrawalRequest w => Store.insertWithdrawalRequest w
  | findWithdrawalRequest id => discard (Store.findWithdrawalRequest id)
  | findWithdrawalRequestForUpdate id => discard (Store.findWithdrawalRequestForUpdate id)
  | updateWithdrawalRequest id status payout => Store.updateWithdrawalRequest id status payout
  | upsertBrand b => Store.upsertBrand b
  | upsertCategory c => Store.upsertCategory c
  | upsertCountry c => Store.upsertCountry c
  | upsertProduct p => Store.upsertProduct p
  | replaceLogoUrls product urls => Store.replaceLogoUrls product urls
  | replaceDenominations product kind amounts => Store.replaceDenominations product kind amounts
  | upsertRedeemInstruction product r => Store.upsertRedeemInstruction product r
  | findProductListing product => discard (Store.findProductListing product)
  | catalogCounts => discard Store.catalogCounts

-- Calls one after another; a refused one changes nothing about the next.
def all : List StoreCall → Work StoreError Unit
  | [] => pure ()
  | c :: rest => do
    let _ ← c.work.attempt
    all rest

def unit (calls : List StoreCall) (commits : Bool) : Work StoreError Unit := do
  all calls
  if commits then Work.commit

-- What a call may do to the rows that its unit sees. Any call may do nothing.
inductive Effect (t : Tables) : StoreCall → Tables → Prop where
  | nothing : Effect t c t
  | insertWallet (single : t.walletOf? w.ownerId w.currency = none) (free : t.wallet? w.id = none) :
      Effect t (.insertWallet w) (t.withWallet w)
  | updateWalletBalance {id : WalletId} (stored : t.wallet? id = some w) (enough : ¬ balance < 0) :
      Effect t (.updateWalletBalance id balance) (t.withBalance id balance moment)
  | updateWalletStatus {id : WalletId} (stored : t.wallet? id = some w) :
      Effect t (.updateWalletStatus id status) (t.withStatus id status moment)
  | insertTransaction (free : ∀ key, r.idempotencyKey = some key → t.transactionOf? key = none) :
      Effect t (.insertTransaction r) (t.withTransaction r)
  | updateTransactionIf {id : TransactionId} (stored : t.transaction? id = some r)
      (current : r.status = expected) :
      Effect t (.updateTransactionIf id expected u) (t.withChanged id u.apply moment)
  | touchTransactionIf {id : TransactionId} (stored : t.transaction? id = some r)
      (current : r.status = expected) :
      Effect t (.touchTransactionIf id expected) (t.withTouched id moment)
  | insertLedgerEntry : Effect t (.insertLedgerEntry e) (t.withEntry e)
  | insertRate (positive : ¬ r.rate ≤ 0) : Effect t (.insertRate r) (t.withRate r)
  | insertReferral (free : t.referral? r.refereeId = none) :
      Effect t (.insertReferral r) (t.withReferral r)
  | lockEarnings : Effect t (.lockEarnings user) (t.withLocked user moment)
  | upsertEarnings (consistent : e.isConsistent = .ok true) :
      Effect t (.upsertEarnings e) (t.withEarnings e)
  | insertWithdrawalRequest : Effect t (.insertWithdrawalRequest w) (t.withWithdrawal w)
  | updateWithdrawalRequest {id : WithdrawalId} (stored : t.withdrawal? id = some w) :
      Effect t (.updateWithdrawalRequest id status payout) (t.withDecided id status payout moment)
  | upsertBrand :
      Effect t (.upsertBrand b) { t with brands := Rows.put Brand.externalId b t.brands }
  | upsertCategory :
      Effect t (.upsertCategory c)
        { t with categories := Rows.put ProductCategory.externalId c t.categories }
  | upsertCountry :
      Effect t (.upsertCountry c) { t with countries := Rows.put Country.isoCode c t.countries }
  | upsertProduct (links : t.Links p) :
      Effect t (.upsertProduct p) { t with products := Rows.put Product.externalId p t.products }
  | replaceLogoUrls :
      Effect t (.replaceLogoUrls product urls)
        { t with logoUrls := Rows.put Prod.fst (product, Store.distinct urls) t.logoUrls }
  | replaceDenominations (positive : ∀ d ∈ amounts, ¬ d ≤ 0) :
      Effect t (.replaceDenominations product kind amounts)
        { t with denominations := Rows.put Prod.fst ((product, kind), amounts) t.denominations }
  | upsertRedeemInstruction :
      Effect t (.upsertRedeemInstruction product r)
        { t with redeemInstructions := Rows.put Prod.fst (product, r) t.redeemInstructions }

end StoreCall

namespace Work

theorem call_faultless {m : Method} {neutral : α} {w : Work StoreError α} {s : Session}
    (faultless : s.server.faults = []) : (Work.call m neutral w).run.run s = w.run.run s := by
  rcases s with ⟨⟨_, _, _, faults, _, _, _⟩, staged⟩
  subst faultless
  rfl

-- From these staged rows the work leaves such rows staged, and it publishes none, however it ends
-- and whatever strikes it.
def Drafts (w : Work ε α) (t : Tables) (Q : Tables → Prop) : Prop :=
  ∀ server : Server, (w.run.run ⟨server, t⟩).2.server.tables = server.tables ∧
    Q (w.run.run ⟨server, t⟩).2.staged

namespace Drafts

variable {w : Work ε α} {t : Tables} {Q : Tables → Prop}

theorem bind {w : Work ε β} {f : β → Work ε α} (first : w.Drafts t Q)
    (rest : ∀ b t', Q t' → (f b).Drafts t' Q) : (w >>= f).Drafts t Q := by
  intro server
  rw [run_bind]
  have before := first server
  rcases result : w.run.run ⟨server, t⟩ with ⟨h | b, s'⟩ <;> rw [result] at before
  · exact before
  · have after := rest b s'.staged before.2 s'.server
    exact ⟨after.1.trans before.1, after.2⟩

theorem changed_then {g : Server → β × Server} {f : β → Work ε α}
    (same : ∀ s, (g s).2.tables = s.tables) (rest : ∀ b, (f b).Drafts t Q) :
    (Work.changeServer g >>= f).Drafts t Q := by
  intro server
  obtain ⟨tables, post⟩ := rest (g server).1 (g server).2
  exact ⟨tables.trans (same server), post⟩

theorem now_then {f : Instant → Work ε α} (rest : ∀ moment, (f moment).Drafts t Q) :
    (Work.now >>= f).Drafts t Q := changed_then (fun _ => rfl) rest

theorem staged_then {g : Tables → β} {f : β → Work ε α} (rest : (f (g t)).Drafts t Q) :
    (Work.staged g >>= f).Drafts t Q := rest

theorem stage {f : Tables → Tables} (post : Q (f t)) : (Work.stage f : Work ε Unit).Drafts t Q :=
  fun _ => ⟨rfl, post⟩

theorem attempt {w : Work ε α} (inner : w.Drafts t Q) : (w.attempt : Work δ _).Drafts t Q := by
  intro server
  have ended := inner server
  have same : ((w.attempt : Work δ _).run.run ⟨server, t⟩).2 = (w.run.run ⟨server, t⟩).2 := by
    unfold Work.attempt
    rw [ExceptT.run_mk, StateT.run_bind]
    rcases w.run.run ⟨server, t⟩ with ⟨(e | reason) | a, s'⟩ <;> rfl
  rw [same]
  exact ended

section Rest

variable (kept : Q t)
include kept

theorem settled (r : Except (Halt ε) α) : (Work.settled r).Drafts t Q := fun _ => ⟨rfl, kept⟩

theorem pure (a : α) : Drafts (Pure.pure a : Work ε α) t Q := settled kept (.ok a)

theorem refuse (e : ε) : (Work.refuse e : Work ε α).Drafts t Q := settled kept (.error (.refused e))

theorem staged (f : Tables → α) : (Work.staged f : Work ε α).Drafts t Q := fun _ => ⟨rfl, kept⟩

theorem exactly_then {r : Except Decimal.Overflow β} {f : β → Work ε α}
    (rest : ∀ b, r = .ok b → (f b).Drafts t Q) : (Work.exactly r >>= f).Drafts t Q := by
  cases r with
  | ok b => exact rest b rfl
  | error operation => exact settled kept (.error (.broken (.overflow operation)))

theorem found_then {o : Option β} {e : ε} {f : β → Work ε α}
    (rest : ∀ b, o = some b → (f b).Drafts t Q) : (Work.found e o >>= f).Drafts t Q := by
  cases o with
  | some b => exact rest b rfl
  | none => exact refuse kept e

theorem refuse_or {p : Prop} [Decidable p] {e : ε} (rest : ¬ p → w.Drafts t Q) :
    (if p then Work.refuse e else w).Drafts t Q := by
  split
  · exact refuse kept e
  · rename_i passed
    exact rest passed

theorem call {w : Work StoreError α} (inner : w.Drafts t Q) :
    (Work.call m neutral w).Drafts t Q := by
  refine changed_then (fun _ => rfl) fun struck => ?_
  rcases struck with _ | _ | _
  · exact inner
  · exact refuse kept _
  · exact pure kept _

theorem read {f : Tables → α} : (Store.read m neutral f).Drafts t Q :=
  call kept (staged kept f)

theorem write {f : Tables → Tables} (post : Q (f t)) : (Store.write m f).Drafts t Q :=
  call kept (stage post)

end Rest

theorem discard (inner : w.Drafts t Q) : (Functor.discard w).Drafts t Q :=
  bind inner fun _ _ kept => pure kept ()

theorem amendTransactionIf {id : TransactionId} (kept : Q t)
    (held : ∀ r, t.transaction? id = some r → r.status = expected → ∀ moment,
      Q (t.withChanged id change moment)) :
    (Store.amendTransactionIf id expected change).Drafts t Q := by
  refine staged_then ?_
  cases stored : t.transaction? id with
  | none => exact pure kept false
  | some r =>
    simp only [Option.any_some]
    split
    · rename_i same
      refine now_then fun moment => bind (stage ?_) fun _ _ kept => pure kept true
      exact held r stored (by simpa using same) moment
    · exact pure kept false

theorem lockEarnings (kept : Q t) (locked : ∀ moment, Q (t.withLocked user moment)) :
    (Store.lockEarnings user).Drafts t Q := by
  refine bind (call kept (staged_then ?_)) fun found _ kept => ?_
  · cases stored : t.earnings? user with
    | some e => exact pure kept (some e)
    | none =>
      refine now_then fun moment => bind (stage ?_) fun _ _ kept => pure kept _
      simpa [Tables.withLocked, stored] using locked moment
  · cases found with
    | some e => exact pure kept e
    | none => exact now_then fun _ => pure kept _

end Drafts
end Work

namespace StoreCall

open Work

theorem drafts (c : StoreCall) {t : Tables} {Q : Tables → Prop}
    (kept : ∀ t', Effect t c t' → Q t') : c.work.Drafts t Q := by
  have still : Q t := kept t .nothing
  cases c with
  | findWallet | findWalletForUpdate | findWalletByOwner | findTransaction | findTransactionByKey
  | findStaleTransactions | ledgerEntriesForTransaction | latestRate | findReferralByReferee
  | findEarnings | findWithdrawalRequest | findWithdrawalRequestForUpdate | findProductListing
  | catalogCounts => exact .discard (.read still)
  | ledgerSumForWallet => exact .discard (.call still (.staged_then (.settled still _)))
  | insertLedgerEntry => exact .write still (kept _ .insertLedgerEntry)
  | insertWithdrawalRequest => exact .write still (kept _ .insertWithdrawalRequest)
  | upsertBrand => exact .write still (kept _ .upsertBrand)
  | upsertCategory => exact .write still (kept _ .upsertCategory)
  | upsertCountry => exact .write still (kept _ .upsertCountry)
  | replaceLogoUrls => exact .write still (kept _ .replaceLogoUrls)
  | upsertRedeemInstruction => exact .write still (kept _ .upsertRedeemInstruction)
  | insertWallet w =>
    refine .call still (.staged_then (.refuse_or still fun free => ?_))
    simp only [Bool.or_eq_true, not_or, Option.not_isSome_iff_eq_none] at free
    exact .stage (kept _ (.insertWallet free.1 free.2))
  | updateWalletBalance id balance =>
    refine .call still (.staged_then (.found_then still fun w stored => ?_))
    refine .refuse_or still fun enough => .now_then fun _ => ?_
    exact .stage (kept _ (.updateWalletBalance stored enough))
  | updateWalletStatus id status =>
    refine .call still (.staged_then (.found_then still fun w stored => ?_))
    exact .now_then fun _ => .stage (kept _ (.updateWalletStatus stored))
  | insertTransaction r =>
    refine .call still (.staged_then (.refuse_or still fun free => ?_))
    simp only [Option.any_eq_true, not_exists, not_and, Option.not_isSome_iff_eq_none] at free
    exact .stage (kept _ (.insertTransaction free))
  | updateTransactionIf id expected u =>
    refine .discard (.call still (.amendTransactionIf still fun r stored current moment => ?_))
    exact kept _ (.updateTransactionIf stored current)
  | touchTransactionIf id expected =>
    refine .discard (.call still (.amendTransactionIf still fun r stored current moment => ?_))
    exact kept _ (.touchTransactionIf stored current)
  | insertRate r =>
    exact .call still (.refuse_or still fun positive => .stage (kept _ (.insertRate positive)))
  | insertReferral r =>
    refine .call still (.staged_then (.refuse_or still fun free => ?_))
    exact .stage (kept _ (.insertReferral (Option.not_isSome_iff_eq_none.mp free)))
  | lockEarnings user => exact .discard (.lockEarnings still fun moment => kept _ .lockEarnings)
  | upsertEarnings e =>
    refine .call still (.exactly_then still fun fine same => ?_)
    cases fine with
    | true =>
      rw [if_pos rfl]
      exact .stage (kept _ (.upsertEarnings same))
    | false =>
      rw [if_neg Bool.false_ne_true]
      exact .refuse still _
  | updateWithdrawalRequest id status payout =>
    refine .call still (.staged_then (.found_then still fun w stored => ?_))
    exact .now_then fun _ => .stage (kept _ (.updateWithdrawalRequest stored))
  | upsertProduct p =>
    refine .call still (.staged_then ?_)
    split
    · rename_i linked
      simp only [Bool.and_eq_true] at linked
      exact .stage (kept _ (.upsertProduct ⟨linked.1.1, linked.1.2, linked.2⟩))
    · exact .refuse still _
  | replaceDenominations product kind amounts =>
    refine .call still (.refuse_or still fun positive => ?_)
    simp only [List.any_eq_true, decide_eq_true_eq, not_exists, not_and] at positive
    exact .stage (kept _ (.replaceDenominations positive))

theorem all_drafts {I : Tables → Prop} {calls : List StoreCall}
    (kept : ∀ c ∈ calls, ∀ t t', Effect t c t' → I t → I t') (before : I t) :
    (all calls).Drafts t I := by
  induction calls generalizing t with
  | nil => exact .pure before ()
  | cons c rest ih =>
    have first : c.work.Drafts t I :=
      c.drafts fun t' effect => kept c List.mem_cons_self t t' effect before
    exact .bind (.attempt first) fun _ _ => ih fun c mem => kept c (List.mem_cons_of_mem _ mem)

end StoreCall

-- What may happen to a store.
inductive StoreEvent where
  | unit (calls : List StoreCall) (commits : Bool)
  | availability (offline : Bool)
  | failNextCommit
  -- Also one that drops a call and says nothing.
  | fault (f : Fault)
  | clock (now : Instant)

def StoreEvent.calls : StoreEvent → List StoreCall
  | .unit calls _ => calls
  | _ => []

theorem Work.commit_tables (s : Session) :
    (Work.commit.run.run s).2.server.tables = s.server.tables ∨
      (Work.commit.run.run s).2.server.tables = s.staged := by
  obtain ⟨w, same, run⟩ := commit_call
  rw [same, call, run_bind, run_strike]
  rcases (Fault.meet .commit s.server.faults).1 with _ | _ | _
  · dsimp only
    rw [run]
    split
    · exact .inl rfl
    · exact .inr rfl
  · exact .inl rfl
  · exact .inl rfl

namespace Server

def use (s : Server) : StoreEvent → Server
  | .unit calls commits => (s.unit id (StoreCall.unit calls commits)).2
  | .availability offline => { s with unavailable := offline }
  | .failNextCommit => { s with failNextCommit := true }
  | .fault f => { s with faults := s.faults ++ [f] }
  | .clock now => { s with clock := now }

def used (events : List StoreEvent) : Server := events.foldl use .start

def during (s : Server) (calls : List StoreCall) : Session :=
  ((StoreCall.all calls).run.run ⟨s, s.tables⟩).2

theorem opening_tables (s : Server) : s.opening.2.tables = s.tables := by
  unfold opening
  split <;>
  · rename_i struck
    exact congrArg (·.2.tables) struck.symm

section Keeps

variable {I : Tables → Prop} {s : Server}

-- A unit publishes what its calls have staged or nothing.
theorem unit_keeps {calls : List StoreCall}
    (kept : ∀ c ∈ calls, ∀ t t', StoreCall.Effect t c t' → I t → I t') (before : I s.tables)
    (commits : Bool) : I ((StoreCall.unit calls commits).run.run ⟨s, s.tables⟩).2.server.tables := by
  obtain ⟨published, staged⟩ := StoreCall.all_drafts kept before s
  rw [StoreCall.unit, Work.run_bind]
  rcases result : (StoreCall.all calls).run.run ⟨s, s.tables⟩ with ⟨_ | _, ended⟩ <;>
    rw [result] at published staged <;> dsimp only at published staged ⊢
  · rw [published]
    exact before
  · cases commits with
    | false =>
      change I ended.server.tables
      rw [published]
      exact before
    | true =>
      change I (Work.commit.run.run ended).2.server.tables
      rcases Work.commit_tables ended with same | done
      · rw [same, published]
        exact before
      · rw [done]
        exact staged

theorem use_keeps {e : StoreEvent}
    (kept : ∀ c ∈ e.calls, ∀ t t', StoreCall.Effect t c t' → I t → I t') (before : I s.tables) :
    I (s.use e).tables := by
  cases e with
  | unit calls commits =>
    have still := s.opening_tables
    unfold use Server.unit
    rcases opened : s.opening with ⟨_ | _, s'⟩ <;> rw [opened] at still <;> rw [← still] at before
    · exact before
    · exact unit_keeps kept before commits
  | availability => exact before
  | failNextCommit => exact before
  | fault => exact before
  | clock => exact before

theorem foldl_keeps {events : List StoreEvent}
    (kept : ∀ e ∈ events, ∀ c ∈ e.calls, ∀ t t', StoreCall.Effect t c t' → I t → I t')
    (before : I s.tables) : I (events.foldl use s).tables := by
  induction events generalizing s with
  | nil => exact before
  | cons e rest ih =>
    exact ih (fun e mem => kept e (List.mem_cons_of_mem _ mem))
      (use_keeps (kept e List.mem_cons_self) before)

-- What every call keeps holds after every history, and within every unit after it.
theorem used_keeps (kept : ∀ c t t', StoreCall.Effect t c t' → I t → I t') (empty : I .empty)
    (events : List StoreEvent) (calls : List StoreCall) :
    I (used events).tables ∧ I ((used events).during calls).staged := by
  have published : I (used events).tables := foldl_keeps (fun _ _ c _ => kept c) empty
  exact ⟨published, (StoreCall.all_drafts (fun c _ => kept c) published _).2⟩

end Keeps
end Server
end Treasury
