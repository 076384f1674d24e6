import Treasury.Proofs.Request.Conflict
import Treasury.Proofs.Store.Use

namespace Treasury

def Wallet.holding (w : Wallet) : Int × Currency := (w.ownerId, w.currency)

namespace Tables

variable {t t' : Tables}

structure Unique (t : Tables) : Prop where
  walletIds : (t.wallets.map Wallet.id).Nodup
  holdings : (t.wallets.map Wallet.holding).Nodup
  transactionIds : (t.transactions.map Transaction.id).Nodup
  keyed : t.Keyed
  referees : (t.referrals.map Referral.refereeId).Nodup

theorem walletOf?_eq (t : Tables) (owner : Int) (currency : Currency) :
    t.walletOf? owner currency = Rows.find? Wallet.holding (owner, currency) t.wallets := by
  simp only [walletOf?, Rows.find?, Wallet.holding, Prod.mk.injEq]

namespace Unique

theorem empty : empty.Unique := ⟨.nil, .nil, .nil, by rintro _ _ ⟨⟩, .nil⟩

theorem of_same (unique : t.Unique) (wallets : t'.wallets = t.wallets)
    (transactions : t'.transactions = t.transactions) (referrals : t'.referrals = t.referrals) :
    t'.Unique :=
  ⟨wallets ▸ unique.walletIds, wallets ▸ unique.holdings, transactions ▸ unique.transactionIds,
    unique.keyed.of_same transactions, referrals ▸ unique.referees⟩

theorem withWallet {w : Wallet} (unique : t.Unique)
    (single : t.walletOf? w.ownerId w.currency = none) (free : t.wallet? w.id = none) :
    (t.withWallet w).Unique := by
  rw [walletOf?_eq] at single
  exact { unique with
    walletIds := Rows.nodup_append_new unique.walletIds free
    holdings := Rows.nodup_append_new unique.holdings single }

theorem amended (unique : t.Unique) {change : Wallet → Wallet} (id : WalletId)
    (number : ∀ w, (change w).id = w.id) (holding : ∀ w, (change w).holding = w.holding) :
    Unique { t with wallets := Rows.amend Wallet.id id change t.wallets } := by
  refine { unique with walletIds := ?_, holdings := ?_ }
  · dsimp only
    rw [Rows.map_amend fun w _ => number w]
    exact unique.walletIds
  · dsimp only
    rw [Rows.map_amend fun w _ => holding w]
    exact unique.holdings

-- A record may be written over another one, whose key is free again from then on.
theorem withTransaction (unique : t.Unique)
    (free : ∀ key, r.idempotencyKey = some key → t.transactionOf? key = none) :
    (t.withTransaction r).Unique := { unique with
  transactionIds := Rows.nodup_put unique.transactionIds
  keyed := unique.keyed.withTransaction free }

theorem withChanged (unique : t.Unique) {change : Transaction → Transaction}
    (number : ∀ r, (change r).id = r.id) (key : ∀ r, (change r).idempotencyKey = r.idempotencyKey)
    (id : TransactionId) (moment : Instant) : (t.withChanged id change moment).Unique := by
  refine { unique with transactionIds := ?_, keyed := unique.keyed.changed key id moment }
  have same : (t.withChanged id change moment).transactions.map Transaction.id =
      t.transactions.map Transaction.id := Rows.map_amend fun r _ => number r
  rw [same]
  exact unique.transactionIds

theorem withReferral (unique : t.Unique) (free : t.referral? r.refereeId = none) :
    (t.withReferral r).Unique :=
  { unique with referees := Rows.nodup_append_new unique.referees free }

end Unique
end Tables

theorem StoreCall.Effect.unique {t t' : Tables} (effect : StoreCall.Effect t c t')
    (unique : t.Unique) : t'.Unique := by
  cases effect with
  | nothing => exact unique
  | insertWallet single free => exact unique.withWallet single free
  | updateWalletBalance => exact unique.amended _ (fun _ => rfl) fun _ => rfl
  | updateWalletStatus => exact unique.amended _ (fun _ => rfl) fun _ => rfl
  | insertTransaction free => exact unique.withTransaction free
  | updateTransactionIf stored =>
    refine unique.withChanged ?_ ?_ _ _ <;> exact fun _ => rfl
  | touchTransactionIf => exact unique.withChanged (fun _ => rfl) (fun _ => rfl) _ _
  | insertReferral free => exact unique.withReferral free
  | lockEarnings =>
    rw [Tables.withLocked_frame]
    exact unique.of_same rfl rfl rfl
  | insertLedgerEntry | insertRate | upsertEarnings | insertWithdrawalRequest
  | updateWithdrawalRequest | upsertBrand | upsertCategory | upsertCountry | upsertProduct
  | replaceLogoUrls | replaceDenominations | upsertRedeemInstruction =>
    exact unique.of_same rfl rfl rfl

theorem Store.read_run {m : Method} {neutral : α} {f : Tables → α} {s : Session}
    (faultless : s.server.faults = []) :
    (Store.read m neutral f).run.run s = (.ok (f s.staged), s) := Work.call_faultless faultless

namespace Server

-- Whatever is called with whatever arguments, and however the units end: what must be unique is so
-- in the committed rows and in those of a unit under way. So looking up a wallet by its owner or
-- a transaction by its key finds the only one there is, in whatever order the rows are walked.
theorem used_unique (events : List StoreEvent) (calls : List StoreCall) :
    let t := ((used events).during calls).staged
    (used events).tables.Unique ∧ t.Unique ∧
      ∀ s : Session, s.server.faults = [] → s.staged.wallets.Perm t.wallets →
        s.staged.transactions.Perm t.transactions →
        (∀ owner currency, ∃ found,
          (Store.findWalletByOwner owner currency).run.run s = (.ok found, s) ∧
            ∀ w, found = some w ↔ w ∈ t.wallets ∧ w.ownerId = owner ∧ w.currency = currency) ∧
        ∀ key, ∃ found, (Store.findTransactionByKey key).run.run s = (.ok found, s) ∧
          ∀ r, found = some r ↔ r ∈ t.transactions ∧ r.idempotencyKey = some key := by
  intro t
  obtain ⟨committed, unique⟩ : (used events).tables.Unique ∧ t.Unique :=
    used_keeps (fun _ _ _ effect => effect.unique) .empty events calls
  refine ⟨committed, unique, fun s faultless wallets transactions => ⟨?_, ?_⟩⟩
  · intro owner currency
    refine ⟨_, Store.read_run faultless, fun w => ?_⟩
    have holdings := (wallets.map Wallet.holding).nodup_iff.mpr unique.holdings
    rw [Tables.walletOf?_eq, Rows.find?_eq_some_iff holdings, wallets.mem_iff, Wallet.holding,
      Prod.mk.injEq]
  · intro key
    refine ⟨_, Store.read_run faultless, fun r => ?_⟩
    have keyed := unique.keyed.reordered transactions
    rw [keyed.transactionOf?_iff, transactions.mem_iff]

def keyedRecord (number : Nat) (key : String) : Transaction :=
  Draft.toTransaction ⟨some key, .deposit, Supply.wallet ⟨0⟩, 1, .ngn, 1, 0, none, "",
    .deposit ""⟩ (Supply.transaction ⟨number⟩) epoch

-- One unit fails at its commit, in the next one a record is written over with another key, a second
-- one is refused that key and takes the free one, and the last unit is dropped.
def overwritingEvents : List StoreEvent :=
  [.unit [.insertTransaction (keyedRecord 0 "first")] true,
    .failNextCommit,
    .unit [.insertTransaction (keyedRecord 1 "lost")] true,
    .unit [.insertTransaction (keyedRecord 0 "second"), .insertTransaction (keyedRecord 1 "second"),
      .insertTransaction (keyedRecord 1 "first")] true,
    .unit [.insertTransaction (keyedRecord 2 "dropped")] false]

theorem used_unique_overwritten :
    let s := used overwritingEvents
    let walked := { s.tables with transactions := s.tables.transactions.reverse }
    s.tables.transactions = [keyedRecord 0 "second", keyedRecord 1 "first"] ∧
      (Store.findTransactionByKey "first").run.run ⟨s, walked⟩ =
        (.ok (some (keyedRecord 1 "first")), ⟨s, walked⟩) := by
  intro s walked
  have stored : s.tables.transactions = [keyedRecord 0 "second", keyedRecord 1 "first"] := by
    decide +kernel
  obtain ⟨_, _, finds⟩ := used_unique overwritingEvents []
  obtain ⟨_, keys⟩ := finds ⟨s, walked⟩ (by decide +kernel) (.refl _) (List.reverse_perm _)
  obtain ⟨found, ran, only⟩ := keys "first"
  have there : found = some (keyedRecord 1 "first") := (only _).mpr
    ⟨show _ ∈ s.tables.transactions from stored ▸ by simp, rfl⟩
  exact ⟨stored, there ▸ ran⟩

end Server
end Treasury
