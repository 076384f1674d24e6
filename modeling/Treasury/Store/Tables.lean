import Treasury.Ledger.Entry
import Treasury.Transaction.Record
import Treasury.Rate
import Treasury.Reward.Basic
import Treasury.Catalog.Basic

namespace Treasury

namespace Rows

variable {α κ : Type} [DecidableEq κ]

def find? (key : α → κ) (k : κ) (rows : List α) : Option α := rows.find? fun r => key r = k

-- Changes the rows of one key.
def amend (key : α → κ) (k : κ) (change : α → α) (rows : List α) : List α :=
  rows.map fun r => if key r = k then change r else r

-- Writes a row over the one with its key, or behind the others when there is none.
def put (key : α → κ) (row : α) (rows : List α) : List α :=
  if (find? key (key row) rows).isSome then amend key (key row) (fun _ => row) rows
  else rows ++ [row]

end Rows

structure Tables where
  wallets : List Wallet
  transactions : List Transaction
  -- In posting order.
  entries : List Entry
  -- In the order of recording.
  rates : List Rate
  referrals : List Referral
  earnings : List Earnings
  withdrawals : List Withdrawal
  brands : List Brand
  categories : List ProductCategory
  countries : List Country
  products : List Product
  logoUrls : List (Int × List String)
  denominations : List ((Int × DenominationKind) × List Decimal)
  redeemInstructions : List (Int × RedeemInstruction)
deriving DecidableEq

namespace Tables

def empty : Tables := ⟨[], [], [], [], [], [], [], [], [], [], [], [], [], []⟩

def wallet? (t : Tables) (id : WalletId) : Option Wallet := Rows.find? Wallet.id id t.wallets

def walletOf? (t : Tables) (owner : Int) (currency : Currency) : Option Wallet :=
  t.wallets.find? fun w => w.ownerId = owner ∧ w.currency = currency

def transaction? (t : Tables) (id : TransactionId) : Option Transaction :=
  Rows.find? Transaction.id id t.transactions

def transactionOf? (t : Tables) (key : String) : Option Transaction :=
  t.transactions.find? fun r => r.idempotencyKey = some key

def entriesOf (t : Tables) (id : TransactionId) : List Entry :=
  t.entries.filter fun e => e.transactionId = id

def walletEntries (t : Tables) (id : WalletId) : List Entry :=
  t.entries.filter fun e => e.account = .wallet id

def walletSum (t : Tables) (id : WalletId) : Except Decimal.Overflow Decimal :=
  Decimal.sum ((t.walletEntries id).map (·.amount))

-- The later one, and of two at the same time the one recorded later.
def laterRate (best : Option Rate) (r : Rate) : Option Rate :=
  match best with
  | none => some r
  | some b => if r.effectiveAt < b.effectiveAt then some b else some r

def rate? (t : Tables) (base quote : Currency) (moment : Instant) : Option Rate :=
  (t.rates.filter fun r => r.base = base ∧ r.quote = quote ∧ r.effectiveAt ≤ moment).foldl
    laterRate none

-- Transactions are served by the time of their last change, then by identifier.
def servedBefore (a b : Transaction) : Bool :=
  decide (a.updatedAt < b.updatedAt ∨ (a.updatedAt = b.updatedAt ∧ a.id ≤ b.id))

def stale (t : Tables) (statuses : List TransactionStatus) (olderThan : Instant) (limit : Nat) :
    List Transaction :=
  ((t.transactions.filter fun r => statuses.contains r.status && decide (r.updatedAt < olderThan))
    |>.mergeSort servedBefore).take limit

def referral? (t : Tables) (referee : Int) : Option Referral :=
  Rows.find? Referral.refereeId referee t.referrals

def earnings? (t : Tables) (user : Int) : Option Earnings :=
  Rows.find? Earnings.userId user t.earnings

def withdrawal? (t : Tables) (id : WithdrawalId) : Option Withdrawal :=
  Rows.find? Withdrawal.id id t.withdrawals

def denominationsOf (t : Tables) (product : Int) (kind : DenominationKind) : List Decimal :=
  ((Rows.find? Prod.fst (product, kind) t.denominations).map (·.2)).getD []

def listing? (t : Tables) (product : Int) : Option Listing :=
  (Rows.find? Product.externalId product t.products).map fun p =>
    ⟨p, t.denominationsOf product .recipient, t.denominationsOf product .sender⟩

def catalogCounts (t : Tables) : CatalogCounts where
  brands := t.brands.length
  categories := t.categories.length
  countries := t.countries.length
  products := t.products.length
  logoUrls := (t.logoUrls.flatMap (·.2)).length
  denominations := (t.denominations.flatMap (·.2)).length
  redeemInstructions := t.redeemInstructions.length

end Tables
end Treasury
