import Treasury.Money
import Treasury.Identifier.Kinds
import Treasury.Time.Instant

namespace Treasury

inductive Account where
  | wallet (id : WalletId)
  -- The platform's fee revenue.
  | fees
  -- The platform's reward pool.
  | rewards
  -- A counterparty outside the platform.
  | external (reference : String)
deriving DecidableEq

namespace Account

-- An account is stored as the number of its kind and a reference.
def kindId : Account → Int
  | .wallet _ => 1
  | .fees => 2
  | .rewards => 3
  | .external _ => 4

def kindName : Account → String
  | .wallet _ => "wallet"
  | .fees => "fees"
  | .rewards => "rewards"
  | .external _ => "external"

def reference : Account → String
  | .wallet id => toString id
  | .fees => "fees"
  | .rewards => "rewards"
  | .external r => r

def ofParts? (kind : Int) (reference : String) : Option Account :=
  if kind = 1 then (WalletId.ofText? reference).map .wallet
  else if kind = 2 then some .fees
  else if kind = 3 then some .rewards
  else if kind = 4 then some (.external reference)
  else none

def isOnPlatform : Account → Bool
  | .external _ => false
  | _ => true

def walletId? : Account → Option WalletId
  | .wallet id => some id
  | _ => none

def display : Account → String
  | .wallet id => "wallet:" ++ toString id
  | .fees => "fees"
  | .rewards => "rewards"
  | .external r => "external:" ++ r

end Account

-- One movement on one account. The settlement amount is the same movement in the currency of
-- the transaction; over one transaction these add up to zero.
structure Entry where
  id : EntryId
  transactionId : TransactionId
  account : Account
  currency : Currency
  amount : Decimal
  settlementAmount : Decimal
  -- The balance of a wallet after this entry.
  balanceAfter : Option Decimal
  onPlatform : Bool
  createdAt : Instant
deriving DecidableEq

def Entry.settlementSum (entries : List Entry) : Except Decimal.Overflow Decimal :=
  Decimal.sum (entries.map (·.settlementAmount))

end Treasury
