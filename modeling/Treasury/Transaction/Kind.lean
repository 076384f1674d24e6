namespace Treasury

-- Which way money goes, seen from the owning wallet.
inductive Direction where
  | debit
  | credit
deriving DecidableEq, Repr

def Direction.all : List Direction := [.debit, .credit]

def Direction.name : Direction → String
  | .debit => "debit"
  | .credit => "credit"

def Direction.ofName? (s : String) : Option Direction := Direction.all.find? (·.name == s)

inductive TransactionKind where
  | deposit
  | transfer
  | giftCardPurchase
  | fiatPayout
  | cryptoSend
  | referralPayout
deriving DecidableEq, Repr

namespace TransactionKind

def all : List TransactionKind :=
  [.deposit, .transfer, .giftCardPurchase, .fiatPayout, .cryptoSend, .referralPayout]

def name : TransactionKind → String
  | .deposit => "deposit"
  | .transfer => "transfer"
  | .giftCardPurchase => "gift_card_purchase"
  | .fiatPayout => "fiat_payout"
  | .cryptoSend => "crypto_send"
  | .referralPayout => "referral_payout"

def id : TransactionKind → Int
  | .deposit => 1
  | .transfer => 2
  | .giftCardPurchase => 3
  | .fiatPayout => 4
  | .cryptoSend => 5
  | .referralPayout => 6

def ofName? (s : String) : Option TransactionKind := all.find? (·.name == s)
def ofId? (n : Int) : Option TransactionKind := all.find? (·.id == n)

def direction : TransactionKind → Direction
  | .deposit | .referralPayout => .credit
  | _ => .debit

end TransactionKind

-- Where a transaction settles.
inductive Platform where
  | onPlatform
  | giftCard
  | fiat
  | crypto
  | referral
deriving DecidableEq, Repr

namespace Platform

def all : List Platform := [.onPlatform, .giftCard, .fiat, .crypto, .referral]

def name : Platform → String
  | .onPlatform => "internal"
  | .giftCard => "gift_card"
  | .fiat => "fiat"
  | .crypto => "crypto"
  | .referral => "referral"

def id : Platform → Int
  | .onPlatform => 1
  | .giftCard => 2
  | .fiat => 3
  | .crypto => 4
  | .referral => 5

def ofName? (s : String) : Option Platform := all.find? (·.name == s)
def ofId? (n : Int) : Option Platform := all.find? (·.id == n)

def isExternal : Platform → Bool
  | .giftCard | .fiat | .crypto => true
  | _ => false

end Platform

inductive TransactionStatus where
  -- Written down; what settles outside is already reserved.
  | pending
  | succeeded
  -- Failed, and any reservation compensated.
  | failed
  -- The provider did not answer in time; to be resolved later, once.
  | unknown
deriving DecidableEq, Repr

namespace TransactionStatus

def all : List TransactionStatus := [.pending, .succeeded, .failed, .unknown]

def name : TransactionStatus → String
  | .pending => "pending"
  | .succeeded => "success"
  | .failed => "failed"
  | .unknown => "unknown"

def id : TransactionStatus → Int
  | .pending => 0
  | .succeeded => 10
  | .failed => -10
  | .unknown => -20

def ofName? (s : String) : Option TransactionStatus := all.find? (·.name == s)
def ofId? (n : Int) : Option TransactionStatus := all.find? (·.id == n)

-- No request moves it on by itself.
def isTerminal (s : TransactionStatus) : Bool := s != .pending

-- Nothing changes the status any more.
def isFinal (s : TransactionStatus) : Bool := s == .succeeded || s == .failed

-- From pending to every other status, and from unknown to a final one.
def canBecome : TransactionStatus → TransactionStatus → Bool
  | .pending, next => next != .pending
  | .unknown, next => next.isFinal
  | _, _ => false

end TransactionStatus
end Treasury
