import Treasury.Store.Work

namespace Treasury.Store

variable {α : Type}

def missingWallet (id : WalletId) : StoreError := .corrupt ("wallet " ++ toString id ++ " missing")

def missingWithdrawal (id : WithdrawalId) : StoreError :=
  .corrupt ("withdrawal request " ++ toString id ++ " missing")

def read (m : Method) (neutral : α) (f : Tables → α) : Work StoreError α :=
  Work.call m neutral (Work.staged f)

def write (m : Method) (f : Tables → Tables) : Work StoreError Unit :=
  Work.call m () (Work.stage f)

def insertWallet (w : Wallet) : Work StoreError Unit :=
  Work.call .insertWallet () do
    let taken ← Work.staged fun t =>
      (t.walletOf? w.ownerId w.currency).isSome || (t.wallet? w.id).isSome
    if taken then Work.refuse (.uniqueViolation "wallets_owner_id_currency_key")
    else Work.stage fun t => { t with wallets := t.wallets ++ [w] }

def findWallet (id : WalletId) : Work StoreError (Option Wallet) :=
  read .findWallet none (·.wallet? id)

def findWalletForUpdate (id : WalletId) : Work StoreError (Option Wallet) :=
  read .findWalletForUpdate none (·.wallet? id)

def findWalletByOwner (owner : Int) (currency : Currency) : Work StoreError (Option Wallet) :=
  read .findWalletByOwner none (·.walletOf? owner currency)

def amendWallet (id : WalletId) (change : Wallet → Wallet) : Work StoreError Unit := do
  let now ← Work.now
  Work.stage fun t =>
    { t with wallets := Rows.amend Wallet.id id (fun w => { change w with updatedAt := now }) t.wallets }

def updateWalletBalance (id : WalletId) (balance : Decimal) : Work StoreError Unit :=
  Work.call .updateWalletBalance () do
    let _ ← Work.found (missingWallet id) (← Work.staged (·.wallet? id))
    if balance < 0 then Work.refuse (.checkViolation "wallets_balance_check")
    else amendWallet id fun w => { w with balance }

def updateWalletStatus (id : WalletId) (status : WalletStatus) : Work StoreError Unit :=
  Work.call .updateWalletStatus () do
    let _ ← Work.found (missingWallet id) (← Work.staged (·.wallet? id))
    amendWallet id fun w => { w with status }

def insertTransaction (t : Transaction) : Work StoreError Unit :=
  Work.call .insertTransaction () do
    let taken ← Work.staged fun rows => t.idempotencyKey.any fun key => (rows.transactionOf? key).isSome
    if taken then Work.refuse (.uniqueViolation "transactions_idempotency_key_key")
    else Work.stage fun rows => { rows with transactions := Rows.put Transaction.id t rows.transactions }

def findTransaction (id : TransactionId) : Work StoreError (Option Transaction) :=
  read .findTransaction none (·.transaction? id)

def findTransactionByKey (key : String) : Work StoreError (Option Transaction) :=
  read .findTransactionByKey none (·.transactionOf? key)

-- Changes a transaction that still has the expected status, and tells whether it had.
def amendTransactionIf (id : TransactionId) (expected : TransactionStatus)
    (change : Transaction → Transaction) : Work StoreError Bool := do
  if (← Work.staged (·.transaction? id)).any (·.status == expected) then
    let now ← Work.now
    Work.stage fun rows =>
      { rows with
        transactions := Rows.amend Transaction.id id (fun t => { change t with updatedAt := now })
          rows.transactions }
    return true
  else return false

def updateTransactionIf (id : TransactionId) (expected : TransactionStatus) (u : TransactionUpdate) :
    Work StoreError Bool :=
  Work.call .updateTransactionIf false (amendTransactionIf id expected u.apply)

def touchTransactionIf (id : TransactionId) (expected : TransactionStatus) : Work StoreError Bool :=
  Work.call .touchTransactionIf false (amendTransactionIf id expected fun t => t)

def findStaleTransactions (statuses : List TransactionStatus) (olderThan : Instant) (limit : Nat) :
    Work StoreError (List Transaction) :=
  read .findStaleTransactions [] (·.stale statuses olderThan limit)

def insertLedgerEntry (e : Entry) : Work StoreError Unit :=
  write .insertLedgerEntry fun t => { t with entries := t.entries ++ [e] }

def ledgerEntriesForTransaction (id : TransactionId) : Work StoreError (List Entry) :=
  read .ledgerEntriesForTransaction [] (·.entriesOf id)

def ledgerSumForWallet (id : WalletId) : Work StoreError Decimal :=
  Work.call .ledgerSumForWallet 0 do Work.exactly (← Work.staged (·.walletSum id))

def insertRate (r : Rate) : Work StoreError Unit :=
  Work.call .insertRate () do
    if r.rate ≤ 0 then Work.refuse (.checkViolation "exchange_rates_rate_check")
    else Work.stage fun t => { t with rates := t.rates ++ [r] }

def latestRate (base quote : Currency) (moment : Instant) : Work StoreError (Option Rate) :=
  read .latestRate none (·.rate? base quote moment)

def insertReferral (r : Referral) : Work StoreError Unit :=
  Work.call .insertReferral () do
    if (← Work.staged (·.referral? r.refereeId)).isSome then
      Work.refuse (.uniqueViolation "referrals_referee_id_key")
    else Work.stage fun t => { t with referrals := t.referrals ++ [r] }

def findReferralByReferee (referee : Int) : Work StoreError (Option Referral) :=
  read .findReferralByReferee none (·.referral? referee)

def findEarnings (user : Int) : Work StoreError (Option Earnings) :=
  read .findEarnings none (·.earnings? user)

-- The row of a user, which is written first when there is none.
def lockEarnings (user : Int) : Work StoreError Earnings := do
  match ← Work.call .lockEarnings none (do
      match ← Work.staged (·.earnings? user) with
      | some e => return some e
      | none =>
        let e := Earnings.empty user (← Work.now)
        Work.stage fun t => { t with earnings := t.earnings ++ [e] }
        return some e) with
  | some e => return e
  | none => return Earnings.empty user (← Work.now)

def upsertEarnings (e : Earnings) : Work StoreError Unit :=
  Work.call .upsertEarnings () do
    if ← Work.exactly e.isConsistent then
      Work.stage fun t => { t with earnings := Rows.put Earnings.userId e t.earnings }
    else Work.refuse (.checkViolation "referral_earnings_balance_check")

def insertWithdrawalRequest (w : Withdrawal) : Work StoreError Unit :=
  write .insertWithdrawalRequest fun t =>
    { t with withdrawals := Rows.put Withdrawal.id w t.withdrawals }

def findWithdrawalRequest (id : WithdrawalId) : Work StoreError (Option Withdrawal) :=
  read .findWithdrawalRequest none (·.withdrawal? id)

def findWithdrawalRequestForUpdate (id : WithdrawalId) : Work StoreError (Option Withdrawal) :=
  read .findWithdrawalRequestForUpdate none (·.withdrawal? id)

-- A payout that it does not bring is kept.
def updateWithdrawalRequest (id : WithdrawalId) (status : WithdrawalStatus)
    (payout : Option TransactionId) : Work StoreError Unit :=
  Work.call .updateWithdrawalRequest () do
    let _ ← Work.found (missingWithdrawal id) (← Work.staged (·.withdrawal? id))
    let now ← Work.now
    Work.stage fun t =>
      { t with
        withdrawals := Rows.amend Withdrawal.id id
          (fun w => { w with status, transactionId := payout.or w.transactionId, updatedAt := now })
          t.withdrawals }

def upsertBrand (b : Brand) : Work StoreError Unit :=
  write .upsertBrand fun t => { t with brands := Rows.put Brand.externalId b t.brands }

def upsertCategory (c : ProductCategory) : Work StoreError Unit :=
  write .upsertCategory fun t =>
    { t with categories := Rows.put ProductCategory.externalId c t.categories }

def upsertCountry (c : Country) : Work StoreError Unit :=
  write .upsertCountry fun t => { t with countries := Rows.put Country.isoCode c t.countries }

-- The brand, the category and the country must be there.
def upsertProduct (p : Product) : Work StoreError Unit :=
  Work.call .upsertProduct () do
    let linked ← Work.staged fun t =>
      (Rows.find? Brand.externalId p.brandId t.brands).isSome &&
        (Rows.find? ProductCategory.externalId p.categoryId t.categories).isSome &&
        (Rows.find? Country.isoCode p.countryIso t.countries).isSome
    if linked then
      Work.stage fun t => { t with products := Rows.put Product.externalId p t.products }
    else
      Work.refuse (.database ("product " ++ toString p.externalId ++
        " references a missing brand, category or country"))

-- The first of equal elements stays.
def distinct (urls : List String) : List String :=
  urls.foldl (fun kept url => if kept.contains url then kept else kept ++ [url]) []

def replaceLogoUrls (product : Int) (urls : List String) : Work StoreError Unit :=
  write .replaceLogoUrls fun t =>
    { t with logoUrls := Rows.put Prod.fst (product, distinct urls) t.logoUrls }

def replaceDenominations (product : Int) (kind : DenominationKind) (amounts : List Decimal) :
    Work StoreError Unit :=
  Work.call .replaceDenominations () do
    if amounts.any (· ≤ 0) then
      Work.refuse (.checkViolation "gift_card_denominations_amount_check")
    else
      Work.stage fun t =>
        { t with denominations := Rows.put Prod.fst ((product, kind), amounts) t.denominations }

def upsertRedeemInstruction (product : Int) (r : RedeemInstruction) : Work StoreError Unit :=
  write .upsertRedeemInstruction fun t =>
    { t with redeemInstructions := Rows.put Prod.fst (product, r) t.redeemInstructions }

def findProductListing (product : Int) : Work StoreError (Option Listing) :=
  read .findProductListing none (·.listing? product)

def catalogCounts : Work StoreError CatalogCounts :=
  read .catalogCounts ⟨0, 0, 0, 0, 0, 0, 0⟩ (·.catalogCounts)

end Treasury.Store
