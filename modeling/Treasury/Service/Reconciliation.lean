import Treasury.Service.External

namespace Treasury.Reconciliation

structure Plan where
  -- How long a transaction must have waited, in milliseconds.
  staleAfter : Nat
  batchSize : Nat
deriving DecidableEq

def Plan.standard : Plan := ⟨300000, 100⟩

-- Transactions that were last touched before this moment are stale. The waiting time is taken as
-- a signed number of 64 binary digits, of which the least one is no time span.
def Plan.cutoff (plan : Plan) (now : Instant) : Except Breakdown Instant :=
  let span := Int.bmod plan.staleAfter UInt64.size
  if span = Int64.minValue.toInt then .error .spanOverflow
  else (now.minusMillis? span).elim (.error .momentOverflow) .ok

structure Report where
  scanned : Nat
  succeeded : Nat
  failed : Nat
  stillUnknown : Nat
  errors : Nat
deriving DecidableEq

namespace Report

def empty : Report := ⟨0, 0, 0, 0, 0⟩

def count (r : Report) : TransactionStatus → Report
  | .succeeded => { r with succeeded := r.succeeded + 1 }
  | .failed => { r with failed := r.failed + 1 }
  | _ => { r with stillUnknown := r.stillUnknown + 1 }

end Report

def reference (t : Transaction) : String × Log.Fact := ("transaction_id", .shown (toString t.id))

def defer (t : Transaction) : Task TransactionError Unit := do
  match ← (External.defer t.id t.status).attempt with
  | .ok () => return ()
  | .error (e : TransactionError) =>
    Task.report (.of .reconciliation .warn "Failed to requeue transaction"
      [reference t, ("error", .shown e.message)])

-- One transaction of the batch. Nothing that goes wrong with it stops the scan.
def resolve (timeout : Nat) (providers : Registry) (t : Transaction) (r : Report) :
    Task TransactionError Report := do
  if !t.platform.isExternal then return r
  else
    let r := { r with scanned := r.scanned + 1 }
    match providers.provider t.platform with
    | .error e =>
      Task.report (.of .reconciliation .error "Cannot reconcile transaction"
        [reference t, ("error", .shown e.message)])
      defer t
      return { r with errors := r.errors + 1 }
    | .ok provider =>
      let outcome ← External.attempt timeout (.status provider t.id)
      match ← (External.settle t.id t.status provider outcome).attempt with
      | .ok (t : Transaction) => return r.count t.status
      | .error (e : TransactionError) =>
        Task.report (.of .reconciliation .error "Failed to reconcile transaction"
          [reference t, ("error", .shown e.message)])
        defer t
        return { r with errors := r.errors + 1 }

def resolveAll (timeout : Nat) (providers : Registry) :
    List Transaction → Report → Task TransactionError Report
  | [], r => return r
  | t :: rest, r => do resolveAll timeout providers rest (← resolve timeout providers t r)

def scan (plan : Plan) : Task TransactionError (List Transaction) := do
  let cutoff ← Task.settled (plan.cutoff (← Task.now))
  let refuse := TransactionError.storage "scan stale transactions"
  Task.unit refuse
    ((Store.findStaleTransactions [.pending, .unknown] cutoff plan.batchSize).told refuse)

def run (timeout : Nat) (providers : Registry) (plan : Plan) : Task TransactionError Report := do
  let batch ← scan plan
  if batch.isEmpty then
    Task.report (.of .reconciliation .debug "No stale transactions found" [])
    return .empty
  else
    Task.report (.of .reconciliation .info "Found stale transactions to reconcile"
      [("count", .number batch.length)])
    let r ← resolveAll timeout providers batch .empty
    if 0 < r.stillUnknown then
      Task.report (.of .reconciliation .warn "Transactions still unresolved"
        [("count", .number r.stillUnknown)])
    Task.report (.of .reconciliation .info "Reconciliation scan finished"
      [("scanned", .number r.scanned), ("succeeded", .number r.succeeded), ("failed", .number r.failed)])
    return r

end Treasury.Reconciliation
