import Treasury.Service.Transactions

namespace Treasury.External

open Transactions

def providerAccount (platform : Platform) (provider : String) : Account :=
  .external (platform.name ++ ":" ++ provider)

inductive Reservation where
  -- The wallet is debited, and the transaction pending.
  | reserved (t : Transaction)
  -- The key was used before, and nothing moved.
  | replayed (t : Transaction)
deriving DecidableEq

def Reservation.transaction : Reservation → Transaction
  | .reserved t | .replayed t => t

def replayIn (d : Draft) (refuse : StoreError → TransactionError) :
    Work TransactionError (Option Transaction) :=
  match d.idempotencyKey with
  | none => return none
  | some key => do
    match ← (Store.findTransactionByKey key).told refuse with
    | none => return none
    | some t =>
      if t.kind ≠ d.kind ∨ t.walletId ≠ d.walletId then Work.refuse (.idempotencyConflict key)
      else return some t

def bookReservation (t : Transaction) (w : Wallet) (provider : String) (total : Decimal) :
    Work PostingError Unit := do
  let _ ← Ledger.debit w t.id total total
  let _ ← Ledger.counterparty t.id (providerAccount t.platform provider) t.currency t.amount t.amount
  if 0 < t.fee then discard (Ledger.counterparty t.id .fees t.currency t.fee t.fee)

def reserve (d : Draft) (provider : String) : Task TransactionError Reservation :=
  let context := "reserve on wallet " ++ toString d.walletId
  let refuse := TransactionError.storage context
  Task.unit refuse do
    match ← replayIn d refuse with
    | some t => return .replayed t
    | none =>
      let w ← Work.found (.walletNotFound d.walletId) (← (Store.findWalletForUpdate d.walletId).told refuse)
      Work.checked (checkCurrency w d.currency)
      let t ← stamp d
      insert refuse t
      let total ← Work.exactly t.total
      (bookReservation t w provider total).told (.ofPosting context)
      Work.commit.told refuse
      Work.report (.of .settlement .info "Funds reserved"
        [("transaction_id", .shown (toString t.id)), ("wallet_id", .shown (toString d.walletId)),
          ("platform", .shown t.platform.name), ("amount", .shown t.amount.toText),
          ("fee", .shown t.fee.toText)])
      return .reserved t

-- Asks a provider. No answer within the timeout is an unknown outcome, never a failure.
def attempt (timeout : Nat) (call : Call) : Task ε Outcome := do
  let reply ← Task.ask (.call call)
  if reply.delay.any (timeout < ·) then
    Task.report (.of .settlement .warn "Provider call timed out"
      [("transaction_id", .shown (toString call.correlation)), ("timeout_ms", .number timeout)])
    return .unknown none
  else
    Task.report (.of .settlement .debug "Provider responded"
      [("transaction_id", .shown (toString call.correlation)),
        ("outcome", .shown reply.outcome.display)])
    return reply.outcome

def compensate (t : Transaction) (account : Account) : Work TransactionError Unit := do
  let context := "compensate transaction " ++ toString t.id
  let w ← Work.found (.walletNotFound t.walletId)
    (← (Store.findWalletForUpdate t.walletId).told (.storage context))
  let total ← Work.exactly t.total
  let book : Work PostingError Unit := do
    let _ ← Ledger.refund w t.id total total
    let _ ← Ledger.counterparty t.id account t.currency (-t.amount) (-t.amount)
    if 0 < t.fee then discard (Ledger.counterparty t.id .fees t.currency (-t.fee) (-t.fee))
  book.told (.ofPosting context)

-- How the price in the end compares with the reserved amount.
inductive Difference where
  | none
  -- The wallet gets this back.
  | refund (amount : Decimal)
  -- The wallet pays this on top.
  | charge (amount : Decimal)
  -- The wallet would have to pay this on top and cannot.
  | shortfall (amount : Decimal)
deriving DecidableEq

def Difference.of (difference : Decimal) (w : Wallet) : Difference :=
  if difference < 0 then .refund (-difference)
  else if w.canDebit ∧ difference ≤ w.balance then .charge difference
  else .shortfall difference

def Difference.note (s : Settlement) : Difference → Settlement
  | .none => s
  | .refund amount => { s with adjustment := some amount }
  | .charge amount => { s with adjustment := some (-amount) }
  | .shortfall amount => { s with shortfall := some amount }

def bookDifference (t : Transaction) (account : Account) (w : Wallet) :
    Difference → Work PostingError Unit
  | .none => return ()
  | .refund amount => do
    let _ ← Ledger.refund w t.id amount amount
    discard (Ledger.counterparty t.id account t.currency (-amount) (-amount))
  | .charge amount => do
    let _ ← Ledger.debit w t.id amount amount
    discard (Ledger.counterparty t.id account t.currency amount amount)
  | .shortfall amount =>
    Work.report (.of .settlement .warn "Provider charged more than the wallet can cover"
      [("transaction_id", .shown (toString t.id)), ("wallet_id", .shown (toString t.walletId)),
        ("shortfall", .shown amount.toText)])

-- The provider's amount in the currency of the wallet, at the rate held since the quote.
def actualAmount (t : Transaction) (settled : Decimal) : Except Decimal.Overflow Decimal :=
  (settled.mul (t.exchangeRate.getD 1)).map t.currency.round

-- Books the difference between the reserved amount and the one the provider settled for.
def adjust (t : Transaction) (account : Account) (settled : Decimal) :
    Work TransactionError Difference := do
  let actual ← Work.exactly (actualAmount t settled)
  let difference ← Work.exactly (actual.sub t.amount)
  if difference.isZero then return .none
  else
    let context := "adjust transaction " ++ toString t.id
    let w ← Work.found (.walletNotFound t.walletId)
      (← (Store.findWalletForUpdate t.walletId).told (.storage context))
    let found := Difference.of difference w
    (bookDifference t account w found).told (.ofPosting context)
    Work.report (.of .settlement .info "Settlement adjusted against estimate"
      [("transaction_id", .shown (toString t.id)), ("reserved", .shown t.amount.toText),
        ("actual", .shown actual.toText)])
    return found

def bookOutcome (t : Transaction) (provider : String) : Outcome → Work TransactionError Settlement
  | .success _ none => return .by provider
  | .success _ (some settled) => do
    let difference ← adjust t (providerAccount t.platform provider) settled
    return difference.note { Settlement.by provider with settledAmount := some settled }
  | .failed reason _ => do
    compensate t (providerAccount t.platform provider)
    return { Settlement.by provider with failureReason := some reason }
  | .unknown _ => return .by provider

def settledEvent (id : TransactionId) (u : TransactionUpdate) : Log.Event :=
  match u.status with
  | .succeeded => .of .settlement .info "Settlement succeeded"
    [("transaction_id", .shown (toString id)),
      ("external_reference", .option Text.quoted u.externalReference)]
  | .failed => .of .settlement .warn "Settlement failed, reservation compensated"
    [("transaction_id", .shown (toString id)), ("reason", .option Text.quoted u.failure)]
  | _ => .of .settlement .error "Settlement outcome unknown, awaiting reconciliation"
    [("transaction_id", .shown (toString id))]

-- What a settlement answers: the record that it read, with the update put into it once more by hand.
-- The store puts the same update into the stored row.
def settledRecord (t : Transaction) (u : TransactionUpdate) : Transaction :=
  { t with
    status := u.status
    externalReference := if u.externalReference.isSome then u.externalReference else t.externalReference
    failure := if u.failure.isSome then u.failure else t.failure
    details := u.details }

-- What a unit of settlement found.
inductive Settled where
  | settled (t : Transaction)
  -- Somebody else was faster, and nothing of this unit stays.
  | outrun

def settleIn (id : TransactionId) (expected : TransactionStatus) (provider : String)
    (outcome : Outcome) (refuse : StoreError → TransactionError) : Work TransactionError Settled := do
  let t ← Work.found (.transactionNotFound id) (← (Store.findTransaction id).told refuse)
  if t.status ≠ expected then
    Work.report (.of .settlement .debug "Already settled"
      [("transaction_id", .shown (toString id)), ("status", .shown t.status.name),
        ("expected", .shown expected.name)])
    return .settled t
  else
    let next := outcome.status
    if next = expected then
      let _ ← (Store.touchTransactionIf id expected).told refuse
      Work.commit.told refuse
      Work.report (.of .settlement .debug "Outcome still unknown"
        [("transaction_id", .shown (toString id))])
      return .settled t
    else if !expected.canBecome next then Work.refuse (.invalidStateTransition id expected next)
    else
      let noted ← bookOutcome t provider outcome
      let update : TransactionUpdate :=
        ⟨next, outcome.reference?, outcome.failure?, t.details.settle noted⟩
      if ← (Store.updateTransactionIf id expected update).told refuse then
        Work.commit.told refuse
        Work.report (settledEvent id update)
        return .settled (settledRecord t update)
      else return .outrun

def reload (id : TransactionId) : Task TransactionError Transaction :=
  let refuse := TransactionError.storage ("reload transaction " ++ toString id)
  Task.unit refuse do
    Work.found (.transactionNotFound id) (← (Store.findTransaction id).told refuse)

-- Records an outcome if the transaction still has the expected status. The answer is the record
-- as it then stands, whoever settled it.
def settle (id : TransactionId) (expected : TransactionStatus) (provider : String)
    (outcome : Outcome) : Task TransactionError Transaction := do
  let refuse := TransactionError.storage ("settle transaction " ++ toString id)
  match ← Task.unit refuse (settleIn id expected provider outcome refuse) with
  | .settled t => return t
  | .outrun => reload id

-- Puts a transaction that could not be resolved behind the others that wait.
def defer (id : TransactionId) (expected : TransactionStatus) : Task TransactionError Unit :=
  let refuse := TransactionError.storage ("defer transaction " ++ toString id)
  Task.unit refuse do
    let _ ← (Store.touchTransactionIf id expected).told refuse
    Work.commit.told refuse

-- All three steps. The provider sees the transaction's identifier as correlation id.
def execute (timeout : Nat) (d : Draft) (provider : String) (order : Order) :
    Task TransactionError Transaction := do
  match ← reserve d provider with
  | .replayed t =>
    Task.report (.of .settlement .debug "Idempotent replay, provider not called"
      [("transaction_id", .shown (toString t.id))])
    return t
  | .reserved t =>
    let outcome ← attempt timeout (.order provider t.id order)
    settle t.id .pending provider outcome

end Treasury.External
