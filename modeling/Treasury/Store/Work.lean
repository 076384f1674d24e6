import Treasury.Store.Tables
import Treasury.Store.Fault
import Treasury.Log.Event

namespace Treasury

-- What a running server holds: the committed rows, the outages set up against it, its clock,
-- the identifiers given out and the events reported so far.
structure Server where
  tables : Tables
  unavailable : Bool
  failNextCommit : Bool
  faults : List Fault
  clock : Instant
  supply : Supply
  journal : Array Log.Event

-- Noon on the first of June 2025.
def Server.epoch : Instant := ⟨1748779200, 0⟩

def Server.start : Server := ⟨.empty, false, false, [], epoch, ⟨0⟩, #[]⟩

-- Arithmetic that has no result, and a posting that no caller may make. Neither is an answer
-- to a request; whatever was under way ends there.
inductive Breakdown where
  | overflow (operation : Decimal.Overflow)
  | countOverflow
  -- A time span of more milliseconds than can be told, and a moment outside the calendar.
  | spanOverflow
  | momentOverflow
  | walletAsCounterparty
deriving DecidableEq, Repr

def Breakdown.message : Breakdown → String
  | .overflow operation => operation.message
  | .countOverflow => "attempt to add with overflow"
  | .spanOverflow => "TimeDelta::milliseconds out of bounds"
  | .momentOverflow => "`DateTime - TimeDelta` overflowed"
  | .walletAsCounterparty => "wallet entries go through post_debit/post_credit"

-- Why a piece of work ended early.
inductive Halt (ε : Type) where
  | refused (error : ε)
  | broken (reason : Breakdown)
deriving DecidableEq

def Halt.map (f : ε → δ) : Halt ε → Halt δ
  | .refused e => .refused (f e)
  | .broken reason => .broken reason

def Halt.ofOverflow : Except Decimal.Overflow α → Except (Halt ε) α
  | .ok a => .ok a
  | .error operation => .error (.broken (.overflow operation))

structure Session where
  server : Server
  staged : Tables

abbrev Work (ε α : Type) := ExceptT (Halt ε) (StateM Session) α

namespace Work

def refuse (e : ε) : Work ε α := throw (.refused e)

def breakOff (reason : Breakdown) : Work ε α := throw (.broken reason)

def told (f : ε → δ) (w : Work ε α) : Work δ α := ExceptT.adapt (Halt.map f) w

def checked : Except ε α → Work ε α
  | .ok a => pure a
  | .error e => refuse e

def settled (r : Except (Halt ε) α) : Work ε α := ExceptT.mk (pure r)

def exactly (r : Except Decimal.Overflow α) : Work ε α := settled (Halt.ofOverflow r)

def found (e : ε) : Option α → Work ε α
  | some a => pure a
  | none => refuse e

-- Goes on with a refusal as a value; a breakdown still ends everything.
def attempt (w : Work ε α) : Work δ (Except ε α) :=
  ExceptT.mk do
    match ← w.run with
    | .ok a => return .ok (.ok a)
    | .error (.refused e) => return .ok (.error e)
    | .error (.broken reason) => return .error (.broken reason)

def changeServer (f : Server → β × Server) : Work ε β := do
  let s ← get
  let (b, server) := f s.server
  set { s with server }
  return b

def staged (f : Tables → β) : Work ε β := do return f (← get).staged

def stage (f : Tables → Tables) : Work ε Unit := modify fun s => { s with staged := f s.staged }

def report (e : Log.Event) : Work ε Unit :=
  changeServer fun s => ((), { s with journal := s.journal.push e })

end Work

namespace Server

-- Reading the clock moves it on.
def now (s : Server) : Instant × Server := (s.clock, { s with clock := s.clock.next })

def issue (pick : Supply → β) (s : Server) : β × Server :=
  (pick s.supply, { s with supply := s.supply.next })

def strike? (m : Method) (s : Server) : Option Strike × Server :=
  let (struck, faults) := Fault.meet m s.faults
  (struck, { s with faults })

def report (e : Log.Event) (s : Server) : Unit × Server := ((), { s with journal := s.journal.push e })

-- A unit can begin unless a fault strikes or the store is offline.
def opening (s : Server) : Except StoreError Unit × Server :=
  match s.strike? .begin with
  | (some (.refuse e), s) => (.error e, s)
  | (_, s) => (if s.unavailable then .error (.unavailable "memory store offline") else .ok (), s)

-- Runs one unit of work. What it staged and did not commit is dropped.
def unit (refuse : StoreError → ε) (w : Work ε α) (s : Server) : Except (Halt ε) α × Server :=
  match s.opening with
  | (.error e, s) => (.error (.refused (refuse e)), s)
  | (.ok (), s) =>
    let (result, session) := w.run.run ⟨s, s.tables⟩
    (result, session.server)

end Server

namespace Work

def now : Work ε Instant := changeServer Server.now

def issue (pick : Supply → β) : Work ε β := changeServer (Server.issue pick)

-- A call of the store, which a fault may strike. `neutral` is the answer that finds nothing.
def call (m : Method) (neutral : α) (w : Work StoreError α) : Work StoreError α := do
  match ← changeServer (Server.strike? m) with
  | none => w
  | some (.refuse e) => refuse e
  | some .nothing => return neutral

def commit : Work StoreError Unit :=
  call .commit () do
    let s ← get
    if s.server.failNextCommit then
      set { s with server := { s.server with failNextCommit := false } }
      refuse (.unavailable "commit failed")
    else
      set { s with server := { s.server with tables := s.staged } }

end Work
end Treasury
