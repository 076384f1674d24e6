import Treasury.Service.Transactions
import Treasury.Transaction.Request

namespace Treasury.Transactions

def depositDraft (r : DepositRequest) (amount : Decimal) (w : Wallet) : Draft :=
  ⟨r.idempotencyKey, .deposit, w.id, w.ownerId, w.currency, amount, 0, none, r.description,
    .deposit r.sourceReference⟩

def depositIn (r : DepositRequest) (amount : Decimal) (refuse : StoreError → TransactionError)
    (posting : PostingError → TransactionError) : Work TransactionError Transaction := do
  match ← replay r.idempotencyKey .deposit r.walletId with
  | some t => return t
  | none =>
    let w ← lockWallet r.walletId
    Work.checked (checkCurrency w r.currency)
    let t := { (← stamp (depositDraft r amount w)) with
      status := .succeeded, externalReference := some r.sourceReference }
    insert (.storage ("insert transaction " ++ toString t.id)) t
    let _ ← (Ledger.counterparty t.id (.external ("deposit:" ++ r.sourceReference)) w.currency
      (-amount) (-amount)).told posting
    let _ ← (Ledger.credit w t.id amount amount).told posting
    Work.commit.told refuse
    Work.report (.of .transactions .info "Deposit credited"
      [("transaction_id", .shown (toString t.id)), ("wallet_id", .shown (toString w.id)),
        ("amount", .shown amount.toText)])
    return t

def deposit (r : DepositRequest) : Task TransactionError Transaction := do
  let amount ← Task.checked (checkedAmount r.amount r.currency)
  let context := "deposit into wallet " ++ toString r.walletId
  Task.unit (.storage context) (depositIn r amount (.storage context) (.ofPosting context))

end Treasury.Transactions
