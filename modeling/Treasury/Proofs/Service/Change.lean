import Treasury.Proofs.Service.Opening

namespace Treasury

open Transactions

-- What a decision on a withdrawal brings beside the new status: the earnings after it and the
-- payout, if there is one.
inductive CarriesOut (g : Gauge) (t : Tables) (g' : Gauge) (w : Withdrawal) (e : Earnings) :
    WithdrawalStatus → Earnings → Option TransactionId → Tables → Prop where
  | rejected (back : e.available.add w.amount = .ok available) :
      CarriesOut g t g' w e .rejected { e with available } w.transactionId t
  | completed (stored : t.wallet? w.walletId = some wallet)
      (shape : r = { (Rewards.payoutDraft w wallet).toTransaction r.id now with status := .succeeded })
      (created : Created g t g' r (payoutLegs wallet w.amount) t')
      (paid : e.withdrawn.add w.amount = .ok withdrawn) :
      CarriesOut g t g' w e .completed { e with withdrawn } (some r.id) t'
  | approved : CarriesOut g t g' w e .approved e w.transactionId t
  | pending : CarriesOut g t g' w e .pending e w.transactionId t

theorem CarriesOut.mono (carries : CarriesOut g t g' w e status e' payout t') (before : g₀.Before g)
    (after : g'.Before g₁) : CarriesOut g₀ t g₁ w e status e' payout t' := by
  cases carries with
  | rejected back => exact .rejected back
  | completed stored shape created paid =>
    exact .completed stored shape (created.mono before after) paid
  | approved => exact .approved
  | pending => exact .pending

inductive Change (g : Gauge) (t : Tables) (g' : Gauge) : Tables → Prop where
  -- A commit of nothing.
  | same : Change g t g' t
  | opened (owner : Int) (currency : Currency) (walletType : WalletType)
      (issued : Gauge.Gives Supply.wallet g g' number) (single : t.walletOf? owner currency = none)
      (free : t.wallet? number = none) :
      Change g t g' (t.withWallet ⟨number, owner, currency, 0, walletType, .active, now, now⟩)
  | restated (stored : t.wallet? number = some w) (differs : w.status ≠ status)
      (unclosed : w.status ≠ .closed) (empty : status = .closed → w.balance.isZero = true) :
      Change g t g' (t.withStatus number status moment)
  | created (created : Created g t g' r legs t') (own : r.kind ≠ .referralPayout) :
      Change g t g' t'
  | deferred (stored : t.transaction? number = some r) : Change g t g' (t.withTouched number moment)
  | rated (r : Rate) (positive : ¬ r.rate ≤ 0) : Change g t g' (t.withRate r)
  | referred (r : Referral) (issued : Gauge.Gives Supply.referral g g' r.id)
      (free : t.referral? r.refereeId = none) (others : r.referrerId ≠ r.refereeId)
      (positive : ¬ r.bonus ≤ 0)
      (locked : e = t.lockedEarnings r.referrerId moment)
      (earned : e.totalEarned.add r.bonus = .ok totalEarned)
      (more : e.available.add r.bonus = .ok available)
      (shape : e' = { e with totalEarned, available, updatedAt := written })
      (consistent : e'.isConsistent = .ok true) :
      Change g t g' (((t.withReferral r).withLocked r.referrerId moment).withEarnings e')
  | requested (user : Int) (amount : Decimal) (issued : Gauge.Gives Supply.withdrawal g g' number)
      (positive : ¬ amount ≤ 0) (locked : e = t.lockedEarnings user moment)
      (enough : ¬ e.available < amount) (settles : t.walletOf? user currency = some w)
      (less : e.available.sub amount = .ok available)
      (shape : e' = { e with available, updatedAt := written })
      (consistent : e'.isConsistent = .ok true) :
      Change g t g' (((t.withLocked user moment).withEarnings e').withWithdrawal
        ⟨number, user, amount, w.id, .pending, none, now, now⟩)
  | decided (stored : t.withdrawal? number = some w) (moves : w.status.canBecome status = true)
      (locked : e = t.lockedEarnings w.userId moment)
      (carries : CarriesOut g (t.withLocked w.userId moment) g' w e status e' payout t₁)
      (shape : e'' = { e' with updatedAt := written }) (consistent : e''.isConsistent = .ok true) :
      Change g t g' ((t₁.withEarnings e'').withDecided number status payout decided)
  | listed (item : VendorItem) (sound : CatalogSweep.flaw? item = none) (moment : Instant)
      (positive : ∀ kind, ∀ d ∈ CatalogSweep.denominationsOf item kind, ¬ d ≤ 0) :
      Change g t g' (t.withItem item moment)

-- What a unit does to the wallets, the transactions and the entries. The other rows may change
-- with it.
inductive BookStep (g : Gauge) (t : Tables) (g' : Gauge) : Tables → Prop where
  | same (books : t.SameBooks t') : BookStep g t g' t'
  | opened (owner : Int) (currency : Currency) (walletType : WalletType)
      (issued : Gauge.Gives Supply.wallet g g' number) (single : t.walletOf? owner currency = none)
      (free : t.wallet? number = none) :
      BookStep g t g' (t.withWallet ⟨number, owner, currency, 0, walletType, .active, now, now⟩)
  | restated (stored : t.wallet? number = some w) (unclosed : w.status ≠ .closed)
      (empty : status = .closed → w.balance.isZero = true) :
      BookStep g t g' (t.withStatus number status moment)
  | created (before : t.SameBooks t₁) (created : Created g t₁ g' r legs t₂)
      (after : t₂.SameBooks t') : BookStep g t g' t'
  | touched (stored : t.transaction? number = some r) : BookStep g t g' (t.withTouched number moment)

theorem Change.books (change : Change g t g' t') : BookStep g t g' t' := by
  cases change with
  | same => exact .same (.refl t)
  | opened owner currency walletType issued single free =>
    exact .opened owner currency walletType issued single free
  | restated stored _ unclosed empty => exact .restated stored unclosed empty
  | created created => exact .created (.refl t) created (.refl t')
  | deferred stored => exact .touched stored
  | rated => exact .same ⟨rfl, rfl, rfl⟩
  | referred r =>
    have noted : t.SameBooks (t.withReferral r) := ⟨rfl, rfl, rfl⟩
    exact .same (noted.trans (.trans (.withLocked _ _) ⟨rfl, rfl, rfl⟩))
  | requested => exact .same (.trans (.withLocked _ _) ⟨rfl, rfl, rfl⟩)
  | decided stored moves locked carries =>
    cases carries with
    | rejected => exact .same (.trans (.withLocked _ _) ⟨rfl, rfl, rfl⟩)
    | completed _ _ created => exact .created (.withLocked _ _) created ⟨rfl, rfl, rfl⟩
    | approved => exact .same (.trans (.withLocked _ _) ⟨rfl, rfl, rfl⟩)
    | pending => exact .same (.trans (.withLocked _ _) ⟨rfl, rfl, rfl⟩)
  | listed => exact .same ⟨rfl, rfl, rfl⟩

structure SettleCall where
  id : TransactionId
  expected : TransactionStatus
  provider : String
  outcome : Outcome

def differenceLegs (r : Transaction) (account : Account) (w : Wallet) : External.Difference → List Leg
  | .none => []
  | .refund amount =>
    [.refund w amount amount, .counterparty account r.currency (-amount) (-amount)]
  | .charge amount => [.debit w amount amount, .counterparty account r.currency amount amount]
  | .shortfall _ => []

def compensationLegs (r : Transaction) (w : Wallet) (account : Account) (total : Decimal) : List Leg :=
  .refund w total total :: .counterparty account r.currency (-r.amount) (-r.amount) ::
    if 0 < r.fee then [.counterparty .fees r.currency (-r.fee) (-r.fee)] else []

-- What an outcome brings for a transaction: its legs, and the note kept of it.
inductive Resolves (t : Tables) (r : Transaction) (provider : String) :
    Outcome → List Leg → Settlement → Prop where
  | accepted : Resolves t r provider (.success reference none) [] (.by provider)
  | exact (actual : External.actualAmount r settled = .ok price)
      (taken : price.sub r.amount = .ok difference) (nothing : difference.isZero = true) :
      Resolves t r provider (.success reference (some settled)) []
        { Settlement.by provider with settledAmount := some settled }
  | adjusted (actual : External.actualAmount r settled = .ok price)
      (taken : price.sub r.amount = .ok difference) (something : difference.isZero = false)
      (stored : t.wallet? r.walletId = some w) :
      Resolves t r provider (.success reference (some settled))
        (differenceLegs r (External.providerAccount r.platform provider) w (.of difference w))
        ((External.Difference.of difference w).note
          { Settlement.by provider with settledAmount := some settled })
  | compensated (stored : t.wallet? r.walletId = some w) (sum : r.total = .ok total) :
      Resolves t r provider (.failed reason reference)
        (compensationLegs r w (External.providerAccount r.platform provider) total)
        { Settlement.by provider with failureReason := some reason }
  | waiting : Resolves t r provider (.unknown reference) [] (.by provider)

def SettleCall.update (c : SettleCall) (r : Transaction) (noted : Settlement) : TransactionUpdate :=
  ⟨c.outcome.status, c.outcome.reference?, c.outcome.failure?, r.details.settle noted⟩

inductive Settles (c : SettleCall) (t : Tables) : External.Settled → Option Tables → Prop where
  | stale (stored : t.transaction? c.id = some r) (moved : r.status ≠ c.expected) :
      Settles c t (.settled r) none
  | touched (stored : t.transaction? c.id = some r) (current : r.status = c.expected)
      (again : c.outcome.status = c.expected) :
      Settles c t (.settled r) (some (t.withTouched c.id moment))
  | decided (stored : t.transaction? c.id = some r) (current : r.status = c.expected)
      (moves : c.expected.canBecome c.outcome.status = true)
      (resolves : Resolves t r c.provider c.outcome legs noted) (books : Books c.id t legs t') :
      Settles c t (.settled ((c.update r noted).apply r))
        (some (t'.withChanged c.id (c.update r noted).apply moment))

theorem Settles.id (settles : Settles c t (.settled r) p) : r.id = c.id := by
  cases settles with
  | stale stored => exact Rows.key_of_find? stored
  | touched stored => exact Rows.key_of_find? stored
  | decided stored =>
    have number := Rows.key_of_find? stored
    exact number

end Treasury
