import Treasury.Text.Quoted

namespace Treasury.Log

inductive Level where
  | error
  | warn
  | info
  | debug
  | trace
deriving DecidableEq, Repr

namespace Level

def all : List Level := [.error, .warn, .info, .debug, .trace]

def name : Level → String
  | .error => "ERROR"
  | .warn => "WARN"
  | .info => "INFO"
  | .debug => "DEBUG"
  | .trace => "TRACE"

-- More detail has a higher rank.
def rank : Level → Nat
  | .error => 1
  | .warn => 2
  | .info => 3
  | .debug => 4
  | .trace => 5

def ofName? (s : String) : Option Level := all.find? (·.name == s)

end Level

-- The part of the program that reports.
inductive Topic where
  | program
  | schedule
  | wallets
  | ledger
  | rates
  | transactions
  | settlement
  | reconciliation
  | rewards
  | catalog
deriving DecidableEq, Repr

def Topic.target : Topic → String
  | .program => "wallet_ledger"
  | .schedule => "wallet_ledger::tasks"
  | .wallets => "wallet_ledger::wallet::service"
  | .ledger => "wallet_ledger::ledger"
  | .rates => "wallet_ledger::rates"
  | .transactions => "wallet_ledger::transaction::orchestrator"
  | .settlement => "wallet_ledger::transaction::saga"
  | .reconciliation => "wallet_ledger::transaction::reconcile"
  | .rewards => "wallet_ledger::referral::service"
  | .catalog => "wallet_ledger::catalog::sync"

-- A fact is a value as it shows itself, a piece of text, a whole number or a flag.
inductive Fact where
  | shown (value : String)
  | text (value : String)
  | number (value : Int)
  | flag (value : Bool)
deriving DecidableEq, Repr

def Fact.option (write : α → String) : Option α → Fact
  | none => .shown "None"
  | some a => .shown ("Some(" ++ write a ++ ")")

structure Event where
  level : Level
  target : String
  message : String
  facts : List (String × Fact)
deriving DecidableEq, Repr

def Event.of (topic : Topic) (level : Level) (message : String) (facts : List (String × Fact)) :
    Event :=
  ⟨level, topic.target, message, facts⟩

end Treasury.Log
