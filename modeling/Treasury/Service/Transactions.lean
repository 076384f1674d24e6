import Treasury.Ledger.Posting
import Treasury.Process

namespace Treasury.Transactions

def get (id : TransactionId) : Task TransactionError Transaction :=
  let refuse := TransactionError.storage ("get transaction " ++ toString id)
  Task.unit refuse do
    Work.found (.transactionNotFound id) (← (Store.findTransaction id).told refuse)

def entries (id : TransactionId) : Task TransactionError (List Entry) :=
  let refuse := TransactionError.storage ("ledger entries of " ++ toString id)
  Task.unit refuse ((Store.ledgerEntriesForTransaction id).told refuse)

def loadWallet (id : WalletId) : Task TransactionError Wallet :=
  let refuse := TransactionError.storage ("load wallet " ++ toString id)
  Task.unit refuse do
    Work.found (.walletNotFound id) (← (Store.findWallet id).told refuse)

def findByKey : Option String → Task TransactionError (Option Transaction)
  | none => return none
  | some key =>
    Task.unit (.storage "idempotency lookup")
      ((Store.findTransactionByKey key).told (.storage ("idempotency lookup " ++ key)))

-- The transaction that already carries the key. A key stands for one operation: one of another
-- kind or on another wallet is a conflict.
def replay (key : Option String) (kind : TransactionKind) (wallet : WalletId) :
    Work TransactionError (Option Transaction) :=
  match key with
  | none => return none
  | some key => do
    match ← (Store.findTransactionByKey key).told (.storage ("idempotency lookup " ++ key)) with
    | none => return none
    | some t =>
      if t.kind ≠ kind ∨ t.walletId ≠ wallet then Work.refuse (.idempotencyConflict key)
      else
        Work.report (.of .transactions .debug "Idempotent replay"
          [("transaction_id", .shown (toString t.id))])
        return some t

-- A key that was taken in the meantime is a conflict too.
def insert (refuse : StoreError → TransactionError) (t : Transaction) : Work TransactionError Unit :=
  (Store.insertTransaction t).told fun e =>
    match t.idempotencyKey with
    | some key => if e.isUniqueViolation then .idempotencyConflict key else refuse e
    | none => refuse e

def lockWallet (id : WalletId) : Work TransactionError Wallet := do
  Work.found (.walletNotFound id)
    (← (Store.findWalletForUpdate id).told (.storage ("lock wallet " ++ toString id)))

-- Both wallets, locked in the order of their identifiers.
def lockPair (a b : WalletId) : Work TransactionError (Wallet × Wallet) := do
  if a < b then
    let first ← lockWallet a
    let second ← lockWallet b
    return (first, second)
  else
    let second ← lockWallet b
    let first ← lockWallet a
    return (first, second)

def checkCurrency (w : Wallet) (currency : Currency) : Except TransactionError Unit :=
  if w.currency = currency then .ok () else .error (.currencyMismatch w.id w.currency currency)

def stamp (d : Draft) : Work ε Transaction := do
  let now ← Work.now
  return d.toTransaction (← Work.issue Supply.transaction) now

def checkedAmount (amount : Decimal) (currency : Currency) : Except TransactionError Decimal :=
  (Money.validateAmount amount currency).mapError .invalidAmount

def checkedFee (fee : Decimal) (currency : Currency) : Except TransactionError Decimal :=
  (Money.validateFee fee currency).mapError .invalidAmount

end Treasury.Transactions
