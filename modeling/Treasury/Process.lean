import Treasury.Store.Query
import Treasury.Provider

namespace Treasury

-- What can be asked outside, by the type of the answer.
inductive Question : Type → Type where
  | call (call : Call) : Question Reply
  -- A page of the vendor's list of products, of at most `size` items.
  | page (number size : Nat) : Question (Except CatalogError VendorPage)

inductive Flow (α : Type) : Type 1 where
  | done (a : α)
  | step {β : Type} (act : Server → β × Server) (next : β → Flow α)
  | ask {β : Type} (question : Question β) (next : β → Flow α)

namespace Flow

def bind : Flow α → (α → Flow β) → Flow β
  | .done a, f => f a
  | .step act next, f => .step act fun b => (next b).bind f
  | .ask question next, f => .ask question fun b => (next b).bind f

instance : Monad Flow where
  pure := .done
  bind := bind

-- Runs a process where steps and questions can be carried out.
def run {m : Type → Type} [Monad m] (step : {β : Type} → (Server → β × Server) → m β)
    (answer : {β : Type} → Question β → m β) : Flow α → m α
  | .done a => pure a
  | .step act next => do (next (← step act)).run step answer
  | .ask question next => do (next (← answer question)).run step answer

-- Runs a process alone, against what answers questions without looking at the server.
def runAlone (answer : {β : Type} → Question β → β) : Flow α → Server → α × Server
  | .done a, s => (a, s)
  | .step act next, s => (next (act s).1).runAlone answer (act s).2
  | .ask question next, s => (next (answer question)).runAlone answer s

end Flow

-- A process that may end early.
abbrev Task (ε α : Type) := ExceptT (Halt ε) Flow α

namespace Task

def refuse (e : ε) : Task ε α := throw (.refused e)

def breakOff (reason : Breakdown) : Task ε α := throw (.broken reason)

def told (f : ε → δ) (t : Task ε α) : Task δ α := ExceptT.adapt (Halt.map f) t

def exactly (r : Except Decimal.Overflow α) : Task ε α := ExceptT.mk (.done (Halt.ofOverflow r))

def settled : Except Breakdown α → Task ε α
  | .ok a => pure a
  | .error reason => breakOff reason

def checked : Except ε α → Task ε α
  | .ok a => pure a
  | .error e => refuse e

def found (e : ε) : Option α → Task ε α
  | some a => pure a
  | none => refuse e

-- One unit of work; `refuse` tells why it could not begin.
def unit (refuse : StoreError → ε) (w : Work ε α) : Task ε α :=
  ExceptT.mk (.step (Server.unit refuse w) .done)

def step (act : Server → α × Server) : Task ε α := ExceptT.mk (.step act fun a => .done (.ok a))

def now : Task ε Instant := step Server.now

def report (e : Log.Event) : Task ε Unit := step (Server.report e)

def ask (question : Question α) : Task ε α := ExceptT.mk (.ask question fun a => .done (.ok a))

-- Goes on with a refusal as a value; a breakdown still ends everything.
def attempt (t : Task ε α) : Task δ (Except ε α) :=
  ExceptT.mk (t.run.bind fun
    | .ok a => .done (.ok (.ok a))
    | .error (.refused e) => .done (.ok (.error e))
    | .error (.broken reason) => .done (.error (.broken reason)))

end Task
end Treasury
