import Treasury.Service.CatalogSweep
import Treasury.Proofs.Store.Rows

namespace Treasury.Tables

variable {t : Tables}

def withWallet (t : Tables) (w : Wallet) : Tables := { t with wallets := t.wallets ++ [w] }

def withBalance (t : Tables) (id : WalletId) (balance : Decimal) (moment : Instant) : Tables :=
  { t with
    wallets := Rows.amend Wallet.id id (fun w => { w with balance, updatedAt := moment }) t.wallets }

def withStatus (t : Tables) (id : WalletId) (status : WalletStatus) (moment : Instant) : Tables :=
  { t with
    wallets := Rows.amend Wallet.id id (fun w => { w with status, updatedAt := moment }) t.wallets }

def withTransaction (t : Tables) (r : Transaction) : Tables :=
  { t with transactions := Rows.put Transaction.id r t.transactions }

def withChanged (t : Tables) (id : TransactionId) (change : Transaction → Transaction)
    (moment : Instant) : Tables :=
  { t with
    transactions :=
      Rows.amend Transaction.id id (fun r => { change r with updatedAt := moment }) t.transactions }

def withTouched (t : Tables) (id : TransactionId) (moment : Instant) : Tables :=
  t.withChanged id (fun r => r) moment

def withEntry (t : Tables) (e : Entry) : Tables := { t with entries := t.entries ++ [e] }

def withRate (t : Tables) (r : Rate) : Tables := { t with rates := t.rates ++ [r] }

def withReferral (t : Tables) (r : Referral) : Tables := { t with referrals := t.referrals ++ [r] }

def lockedEarnings (t : Tables) (user : Int) (moment : Instant) : Earnings :=
  (t.earnings? user).getD (.empty user moment)

def withLocked (t : Tables) (user : Int) (moment : Instant) : Tables :=
  if (t.earnings? user).isSome then t
  else { t with earnings := t.earnings ++ [.empty user moment] }

theorem withLocked_frame (t : Tables) (user : Int) (moment : Instant) :
    t.withLocked user moment = { t with earnings := (t.withLocked user moment).earnings } := by
  unfold withLocked
  split <;> rfl

def withEarnings (t : Tables) (e : Earnings) : Tables :=
  { t with earnings := Rows.put Earnings.userId e t.earnings }

def withWithdrawal (t : Tables) (w : Withdrawal) : Tables :=
  { t with withdrawals := Rows.put Withdrawal.id w t.withdrawals }

def withDecided (t : Tables) (id : WithdrawalId) (status : WithdrawalStatus)
    (payout : Option TransactionId) (moment : Instant) : Tables :=
  { t with
    withdrawals := Rows.amend Withdrawal.id id
      (fun w => { w with status, transactionId := payout.or w.transactionId, updatedAt := moment })
      t.withdrawals }

def withItem (t : Tables) (item : VendorItem) (moment : Instant) : Tables :=
  let number := item.productId
  { t with
    brands := Rows.put Brand.externalId item.brand t.brands
    categories := Rows.put ProductCategory.externalId item.category t.categories
    countries := Rows.put Country.isoCode (CatalogSweep.countryOf item) t.countries
    products := Rows.put Product.externalId (CatalogSweep.productOf item moment) t.products
    logoUrls := Rows.put Prod.fst (number, Store.distinct item.logoUrls) t.logoUrls
    denominations :=
      Rows.put Prod.fst ((number, .sender), CatalogSweep.denominationsOf item .sender)
        (Rows.put Prod.fst ((number, .recipient), CatalogSweep.denominationsOf item .recipient)
          t.denominations)
    redeemInstructions := Rows.put Prod.fst (number, item.redeemInstruction) t.redeemInstructions }

-- The brand, the category and the country that a product names.
structure Links (t : Tables) (p : Product) : Prop where
  brand : (Rows.find? Brand.externalId p.brandId t.brands).isSome
  category : (Rows.find? ProductCategory.externalId p.categoryId t.categories).isSome
  country : (Rows.find? Country.isoCode p.countryIso t.countries).isSome

theorem withItem_links (t : Tables) (item : VendorItem) (moment : Instant) :
    (t.withItem item moment).Links (CatalogSweep.productOf item moment) :=
  ⟨Rows.isSome_put_self _ _, Rows.isSome_put_self _ _, Rows.isSome_put_self _ _⟩

theorem ids_withChanged {number : TransactionId} {change : Transaction → Transaction}
    (keeps : ∀ r, (change r).id = r.id) :
    (t.withChanged number change moment).transactions.map Transaction.id =
      t.transactions.map Transaction.id := Rows.map_amend fun r _ => keeps r

theorem transaction?_withChanged {id number : TransactionId} {change : Transaction → Transaction}
    (keeps : ∀ r, (change r).id = r.id) :
    (t.withChanged number change moment).transaction? id =
      (t.transaction? id).map fun r =>
        if r.id = number then { change r with updatedAt := moment } else r := by
  refine Rows.find?_amend ?_ id
  exact fun r _ => keeps r

theorem transaction?_changed {id number : TransactionId} {change : Transaction → Transaction}
    (keeps : ∀ r, (change r).id = r.id)
    (stored : (t.withChanged number change moment).transaction? id = some x) :
    (id = number ∧ ∃ r, t.transaction? number = some r ∧ x = { change r with updatedAt := moment }) ∨
      id ≠ number ∧ t.transaction? id = some x := by
  rw [transaction?_withChanged keeps] at stored
  obtain ⟨r, found, same⟩ := Option.map_eq_some_iff.mp stored
  have key : r.id = id := Rows.key_of_find? found
  split at same
  · rename_i mine
    rw [← key, mine] at found
    exact .inl ⟨key.symm.trans mine, r, found, same.symm⟩
  · rename_i other
    exact .inr ⟨key ▸ other, same ▸ found⟩

theorem transactionOf?_withChanged {number : TransactionId} {change : Transaction → Transaction}
    (keeps : ∀ r, (change r).idempotencyKey = r.idempotencyKey) (k : String) :
    (t.withChanged number change moment).transactionOf? k =
      (t.transactionOf? k).map fun r =>
        if r.id = number then { change r with updatedAt := moment } else r :=
  Rows.find_amend fun r _ => by simp [keeps]

theorem transactionOf?_withTransaction {r : Transaction} (keyed : r.idempotencyKey = some k)
    (free : t.transactionOf? k = none) : (t.withTransaction r).transactionOf? k = some r := by
  cases found : (t.withTransaction r).transactionOf? k with
  | none => exact absurd keyed (by simpa using List.find?_eq_none.mp found r Rows.self_mem_put)
  | some x =>
    have same : x.idempotencyKey = some k := by simpa using List.find?_some found
    rcases Rows.mem_put (List.mem_of_find?_eq_some found) with rfl | ⟨old, _⟩
    · rfl
    · exact absurd same (by simpa using List.find?_eq_none.mp free x old)

-- Rows other than wallets, transactions and entries are not money.
structure SameBooks (t t' : Tables) : Prop where
  wallets : t'.wallets = t.wallets
  transactions : t'.transactions = t.transactions
  entries : t'.entries = t.entries

theorem SameBooks.refl (t : Tables) : SameBooks t t := ⟨rfl, rfl, rfl⟩

theorem SameBooks.trans (first : SameBooks t t') (second : SameBooks t' t'') : SameBooks t t'' :=
  ⟨second.wallets.trans first.wallets, second.transactions.trans first.transactions,
    second.entries.trans first.entries⟩

theorem SameBooks.withLocked (user : Int) (moment : Instant) :
    SameBooks t (t.withLocked user moment) := by
  rw [withLocked_frame]
  exact ⟨rfl, rfl, rfl⟩

end Treasury.Tables
