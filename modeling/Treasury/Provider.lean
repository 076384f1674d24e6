import Treasury.Transaction.Failure
import Treasury.Transaction.Record

namespace Treasury

inductive Outcome where
  -- Settled, with the provider's own total when it reports one.
  | success (reference : String) (settledAmount : Option Decimal)
  -- Refused for good; no money moved there.
  | failed (reason : String) (reference : Option String)
  -- Not known yet.
  | unknown (reference : Option String)
deriving DecidableEq

namespace Outcome

def reference? : Outcome → Option String
  | .success reference _ => some reference
  | .failed _ reference => reference
  | .unknown reference => reference

def failure? : Outcome → Option String
  | .failed reason _ => some reason
  | _ => none

def status : Outcome → TransactionStatus
  | .success _ _ => .succeeded
  | .failed _ _ => .failed
  | .unknown _ => .unknown

def display : Outcome → String
  | .success _ _ => "success"
  | .failed reason _ => "failed: " ++ reason
  | .unknown _ => "unknown"

end Outcome

-- An order without its correlation id. Amounts are in the currency it names.
inductive Order where
  | giftCard (productId : Int) (quantity : UInt32) (unitPrice senderAmount : Decimal)
      (senderCurrency : String) (recipientEmail : Option String)
  | payout (amount : Decimal) (currency bankCode accountNumber accountName : String)
  | send (amount : Decimal) (currency network asset address : String)
deriving DecidableEq

-- A provider call: an order, or a question about an earlier one with the same correlation id.
inductive Call where
  | order (provider : String) (correlation : TransactionId) (order : Order)
  | status (provider : String) (correlation : TransactionId)
deriving DecidableEq

def Call.correlation : Call → TransactionId
  | .order _ id _ => id
  | .status _ id => id

def Call.provider : Call → String
  | .order name _ _ => name
  | .status name _ => name

-- An answer, and after how many milliseconds it came when it took any.
structure Reply where
  outcome : Outcome
  delay : Option Nat
deriving DecidableEq

-- The name of the provider for each capability.
structure Registry where
  giftCard : Option String
  fiat : Option String
  crypto : Option String
deriving DecidableEq

namespace Registry

def empty : Registry := ⟨none, none, none⟩

def isEmpty (r : Registry) : Bool := r.giftCard.isNone && r.fiat.isNone && r.crypto.isNone

def name? (r : Registry) : Platform → Option String
  | .giftCard => r.giftCard
  | .fiat => r.fiat
  | .crypto => r.crypto
  | .onPlatform | .referral => none

def provider (r : Registry) (platform : Platform) : Except TransactionError String :=
  (r.name? platform).elim (.error (.providerNotConfigured platform)) .ok

end Registry
end Treasury
