import Treasury.Money
import Treasury.Identifier.Kinds
import Treasury.Time.Instant

namespace Treasury

inductive WalletType where
  | personal
  | business
  | savings
  | checking
deriving DecidableEq, Repr

namespace WalletType

def all : List WalletType := [.personal, .business, .savings, .checking]

def name : WalletType → String
  | .personal => "personal"
  | .business => "business"
  | .savings => "savings"
  | .checking => "checking"

instance : ToString WalletType := ⟨name⟩

def id : WalletType → Int
  | .personal => 1
  | .business => 2
  | .savings => 3
  | .checking => 4

def ofName? (s : String) : Option WalletType := all.find? (·.name == s)
def ofId? (n : Int) : Option WalletType := all.find? (·.id == n)

end WalletType

inductive WalletStatus where
  | active
  -- Nothing may be debited, but credits still land.
  | frozen
  -- Final.
  | closed
deriving DecidableEq, Repr

namespace WalletStatus

def all : List WalletStatus := [.active, .frozen, .closed]

def name : WalletStatus → String
  | .active => "active"
  | .frozen => "frozen"
  | .closed => "closed"

instance : ToString WalletStatus := ⟨name⟩

def id : WalletStatus → Int
  | .active => 1
  | .frozen => 2
  | .closed => 3

def ofName? (s : String) : Option WalletStatus := all.find? (·.name == s)
def ofId? (n : Int) : Option WalletStatus := all.find? (·.id == n)

end WalletStatus

structure Wallet where
  id : WalletId
  ownerId : Int
  currency : Currency
  balance : Decimal
  walletType : WalletType
  status : WalletStatus
  createdAt : Instant
  updatedAt : Instant
deriving DecidableEq

namespace Wallet

def canDebit (w : Wallet) : Bool := w.status == .active
def canCredit (w : Wallet) : Bool := w.status != .closed

def display (w : Wallet) : String :=
  "Wallet[" ++ toString w.id ++ "] owner=" ++ toString w.ownerId ++ " " ++ w.walletType.name ++ " " ++
    w.currency.code ++ " balance=" ++ w.balance.toText ++ " status=" ++ w.status.name

-- A stored balance beside the sum of the wallet's entries.
structure Audit where
  walletId : WalletId
  balance : Decimal
  ledgerSum : Decimal
deriving DecidableEq

def Audit.drift (a : Audit) : Except Decimal.Overflow Decimal := a.balance.sub a.ledgerSum

end Wallet

-- A request for a new wallet, as it arrives.
structure WalletRequest where
  currency : String
  walletType : Option String
deriving DecidableEq

end Treasury
