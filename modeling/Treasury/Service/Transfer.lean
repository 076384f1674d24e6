import Treasury.Service.Transactions
import Treasury.Service.Rates
import Treasury.Transaction.Request

namespace Treasury.Transactions

-- What the destination receives.
structure Credited where
  currency : Currency
  amount : Decimal
  rate : Option Decimal
deriving DecidableEq

def creditedRate (r : TransferRequest) : Task TransactionError (Currency × Option Decimal) :=
  match r.destination with
  | .external _ _ => return (r.currency, none)
  | .wallet id => do
    let w ← loadWallet id
    if w.currency = r.currency then return (w.currency, none)
    else
      let rate ← (Rates.get r.currency w.currency).told .rate
      return (w.currency, some rate)

def credited (r : TransferRequest) (amount : Decimal) : Task TransactionError Credited := do
  let (currency, rate) ← creditedRate r
  let converted ← match rate with
    | some x => do pure (currency.round (← Task.exactly (amount.mul x)))
    | none => pure amount
  if converted ≤ 0 then Task.refuse .amountTooSmall
  else return ⟨currency, converted, rate⟩

-- Where the converted amount lands.
inductive FarEnd where
  | wallet (w : Wallet)
  | account (reference : String)

def FarEnd.wallet? : FarEnd → Option WalletId
  | .wallet w => some w.id
  | .account _ => none

def lockEnds (r : TransferRequest) (c : Credited) : Work TransactionError (Wallet × FarEnd) :=
  match r.destination with
  | .external reference _ => do return (← lockWallet r.sourceWalletId, .account reference)
  | .wallet id => do
    let (source, destination) ← lockPair r.sourceWalletId id
    Work.checked (checkCurrency destination c.currency)
    return (source, .wallet destination)

def transferDraft (r : TransferRequest) (amount fee : Decimal) (c : Credited) (source : Wallet) :
    Draft :=
  ⟨r.idempotencyKey, .transfer, source.id, source.ownerId, source.currency, amount, fee, c.rate,
    r.description, .transfer r.destination c.rate c.amount c.currency⟩

def bookFarEnd (t : Transaction) (amount : Decimal) (c : Credited) : FarEnd → Work PostingError Unit
  | .wallet w => discard (Ledger.credit w t.id c.amount amount)
  | .account reference =>
    discard (Ledger.counterparty t.id (.external reference) t.currency amount amount)

def bookFee (t : Transaction) (fee : Decimal) : Work PostingError Unit :=
  if 0 < fee then discard (Ledger.counterparty t.id .fees t.currency fee fee) else return ()

def transferIn (r : TransferRequest) (amount fee : Decimal) (c : Credited)
    (refuse : StoreError → TransactionError) (posting : PostingError → TransactionError) :
    Work TransactionError Transaction := do
  match ← replay r.idempotencyKey .transfer r.sourceWalletId with
  | some t => return t
  | none =>
    let (source, farEnd) ← lockEnds r c
    Work.checked (checkCurrency source r.currency)
    let t := { (← stamp (transferDraft r amount fee c source)) with status := .succeeded }
    insert (.storage ("insert transaction " ++ toString t.id)) t
    let total ← Work.exactly t.total
    let _ ← (Ledger.debit source t.id total total).told posting
    (bookFarEnd t amount c farEnd).told posting
    (bookFee t fee).told posting
    Work.commit.told refuse
    Work.report (.of .transactions .info "Transfer completed"
      [("transaction_id", .shown (toString t.id)), ("source_wallet_id", .shown (toString source.id)),
        ("destination", .option (fun id => "WalletId(" ++ toString id ++ ")") farEnd.wallet?),
        ("amount", .shown amount.toText), ("fee", .shown fee.toText),
        ("credited", .shown c.amount.toText)])
    return t

def transfer (r : TransferRequest) : Task TransactionError Transaction := do
  let amount ← Task.checked (checkedAmount r.amount r.currency)
  let fee ← Task.checked (checkedFee r.fee r.currency)
  if r.destination = .wallet r.sourceWalletId then Task.refuse .sameWallet
  else
    let c ← credited r amount
    let context := "transfer from wallet " ++ toString r.sourceWalletId
    Task.unit (.storage context) (transferIn r amount fee c (.storage context) (.ofPosting context))

end Treasury.Transactions
