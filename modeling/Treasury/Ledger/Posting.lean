import Treasury.Ledger.Failure
import Treasury.Store.Query

namespace Treasury.Ledger

def posted (transaction : TransactionId) (wallet : WalletId) (amount balance : Decimal) : Log.Event :=
  .of .ledger .debug "Ledger entry posted"
    [("transaction_id", .shown (toString transaction)), ("wallet_id", .shown (toString wallet)),
      ("amount", .shown amount.toText), ("balance", .shown balance.toText)]

def newEntry (transaction : TransactionId) (account : Account) (currency : Currency)
    (amount settlement : Decimal) (balance : Option Decimal) : Work ε Entry := do
  let id ← Work.issue Supply.entry
  let now ← Work.now
  return ⟨id, transaction, account, currency, amount, settlement, balance, account.isOnPlatform, now⟩

-- What a posting does to a wallet: the signed amounts, and the balance that comes of them.
structure Movement where
  wallet : Wallet
  amount : Decimal
  settlement : Decimal
  balance : Decimal
deriving DecidableEq

namespace Movement

-- Only an active wallet that holds the amount is debited.
def debit (w : Wallet) (amount settlement : Decimal) : Except (Halt PostingError) Movement :=
  if amount ≤ 0 then .error (.refused (.nonPositiveAmount amount))
  else if !w.canDebit then .error (.refused (.walletInactive w.id w.status .debited))
  else if w.balance < amount then .error (.refused (.insufficientFunds w.id w.balance amount))
  else (Halt.ofOverflow (w.balance.sub amount)).map fun balance => ⟨w, -amount, -settlement, balance⟩

-- Gives money back, whatever the status of the wallet.
def refund (w : Wallet) (amount settlement : Decimal) : Except (Halt PostingError) Movement :=
  if amount ≤ 0 then .error (.refused (.nonPositiveAmount amount))
  else (Halt.ofOverflow (w.balance.add amount)).map fun balance => ⟨w, amount, settlement, balance⟩

-- A closed wallet is not credited.
def credit (w : Wallet) (amount settlement : Decimal) : Except (Halt PostingError) Movement :=
  if !w.canCredit then .error (.refused (.walletInactive w.id w.status .credited))
  else refund w amount settlement

def move (m : Movement) : Work PostingError Unit :=
  (Store.updateWalletBalance m.wallet.id m.balance).told .store

def append (m : Movement) (transaction : TransactionId) : Work PostingError Entry := do
  let e ← newEntry transaction (.wallet m.wallet.id) m.wallet.currency m.amount m.settlement
    (some m.balance)
  (Store.insertLedgerEntry e).told .store
  Work.report (posted transaction m.wallet.id m.amount m.balance)
  return e

def book (m : Movement) (transaction : TransactionId) : Work PostingError Entry := do
  m.move
  m.append transaction

end Movement

def debit (w : Wallet) (transaction : TransactionId) (amount settlement : Decimal) :
    Work PostingError Entry := do
  (← Work.settled (Movement.debit w amount settlement)).book transaction

def refund (w : Wallet) (transaction : TransactionId) (amount settlement : Decimal) :
    Work PostingError Entry := do
  (← Work.settled (Movement.refund w amount settlement)).book transaction

def credit (w : Wallet) (transaction : TransactionId) (amount settlement : Decimal) :
    Work PostingError Entry := do
  (← Work.settled (Movement.credit w amount settlement)).book transaction

-- A posting as its caller sees it, with the balance in the caller's own copy of the wallet. That
-- copy moves with the stored balance, also when the entry is refused after it.
def held (w : Wallet) (transaction : TransactionId)
    (movement : Except (Halt PostingError) Movement) :
    Work ε (Except PostingError Entry × Decimal) :=
  match movement with
  | .error (.broken reason) => Work.breakOff reason
  | .error (.refused e) => return (.error e, w.balance)
  | .ok m => do
    match ← m.move.attempt with
    | .error e => return (.error e, w.balance)
    | .ok () => return (← (m.append transaction).attempt, m.balance)

def counterparty (transaction : TransactionId) (account : Account) (currency : Currency)
    (amount settlement : Decimal) : Work PostingError Entry := do
  if account.walletId?.isSome then Work.breakOff .walletAsCounterparty
  else
    let e ← newEntry transaction account currency amount settlement none
    (Store.insertLedgerEntry e).told .store
    return e

end Treasury.Ledger
