import Treasury.Ledger.Failure

namespace Treasury

-- A user is referred at most once.
structure Referral where
  id : ReferralId
  referrerId : Int
  refereeId : Int
  bonus : Decimal
  createdAt : Instant
deriving DecidableEq

-- What was earned in all, what of it can be requested, and what was paid out. The rest is in
-- requests that are still open.
structure Earnings where
  userId : Int
  totalEarned : Decimal
  available : Decimal
  withdrawn : Decimal
  updatedAt : Instant
deriving DecidableEq

namespace Earnings

def empty (userId : Int) (now : Instant) : Earnings := ⟨userId, 0, 0, 0, now⟩

def inFlight (e : Earnings) : Except Decimal.Overflow Decimal := do
  let rest ← e.totalEarned.sub e.available
  rest.sub e.withdrawn

-- Neither what is available nor what is in open requests is negative.
def isConsistent (e : Earnings) : Except Decimal.Overflow Bool :=
  if 0 ≤ e.available then e.inFlight.map fun rest => decide (0 ≤ rest) else .ok false

end Earnings

inductive WithdrawalStatus where
  | pending
  | approved
  | completed
  | rejected
deriving DecidableEq, Repr

namespace WithdrawalStatus

def all : List WithdrawalStatus := [.pending, .approved, .completed, .rejected]

def name : WithdrawalStatus → String
  | .pending => "pending"
  | .approved => "approved"
  | .completed => "completed"
  | .rejected => "rejected"

def id : WithdrawalStatus → Int
  | .pending => 0
  | .approved => 1
  | .completed => 2
  | .rejected => -1

def ofName? (s : String) : Option WithdrawalStatus := all.find? (·.name == s)
def ofId? (n : Int) : Option WithdrawalStatus := all.find? (·.id == n)

def isFinal (s : WithdrawalStatus) : Bool := s == .completed || s == .rejected

-- Forward only, and out of no final status.
def canBecome : WithdrawalStatus → WithdrawalStatus → Bool
  | .pending, next => next != .pending
  | .approved, next => next.isFinal
  | _, _ => false

end WithdrawalStatus

structure Withdrawal where
  id : WithdrawalId
  userId : Int
  amount : Decimal
  walletId : WalletId
  status : WithdrawalStatus
  -- The payout, once completed.
  transactionId : Option TransactionId
  createdAt : Instant
  updatedAt : Instant
deriving DecidableEq

-- Smallest withdrawal, and the currency of the wallets that withdrawals go to.
structure RewardPolicy where
  threshold : Decimal
  settlementCurrency : Currency
deriving DecidableEq

def RewardPolicy.standard : RewardPolicy :=
  ⟨.ofUInt32 10000, .ngn⟩

inductive RewardError where
  | selfReferral (user : Int)
  | invalidAmount (amount : Decimal)
  | invalidStatus (name : String)
  | invalidStatusTransition (id : WithdrawalId) (old new : WithdrawalStatus)
  | alreadyReferred (user : Int)
  | belowThreshold (amount threshold : Decimal)
  | insufficientBalance (available requested : Decimal)
  | settlementWalletNotFound (user : Int)
  | notFound (id : WithdrawalId)
  | storage (context : String) (source : StoreError)
  | posting (context : String) (source : PostingError)
deriving DecidableEq

namespace RewardError

def code : RewardError → String
  | .selfReferral _ => "SELF_REFERRAL"
  | .invalidAmount _ => "INVALID_AMOUNT"
  | .invalidStatus _ => "INVALID_STATUS"
  | .invalidStatusTransition _ _ _ => "INVALID_STATUS_TRANSITION"
  | .alreadyReferred _ => "ALREADY_REFERRED"
  | .belowThreshold _ _ => "WITHDRAWAL_THRESHOLD"
  | .insufficientBalance _ _ => "INSUFFICIENT_BALANCE"
  | .settlementWalletNotFound _ => "SETTLEMENT_WALLET_NOT_FOUND"
  | .notFound _ => "WITHDRAWAL_REQUEST_NOT_FOUND"
  | .storage _ _ => "STORAGE_ERROR"
  | .posting _ (.store _) => "STORAGE_ERROR"
  | .posting _ _ => "PAYOUT_REJECTED"

def category : RewardError → Category
  | .selfReferral _ | .invalidAmount _ | .invalidStatus _ => .validation
  | .invalidStatusTransition _ _ _ | .alreadyReferred _ => .conflict
  | .belowThreshold _ _ | .insufficientBalance _ _ => .insufficientResource
  | .settlementWalletNotFound _ | .notFound _ => .notFound
  | .storage _ source => source.category
  | .posting _ source => source.category

def message : RewardError → String
  | .selfReferral user => "User " ++ toString user ++ " cannot refer themselves"
  | .invalidAmount amount => "Amount must be positive: " ++ amount.toText
  | .invalidStatus name => "Invalid withdrawal status: " ++ name
  | .invalidStatusTransition id old new =>
    "Withdrawal request " ++ toString id ++ " cannot move from " ++ old.name ++ " to " ++ new.name
  | .alreadyReferred user => "User " ++ toString user ++ " has already been referred"
  | .belowThreshold amount threshold =>
    "Withdrawal of " ++ amount.toText ++ " is below the threshold of " ++ threshold.toText
  | .insufficientBalance available requested =>
    "Insufficient referral balance: available " ++ available.toText ++ ", requested " ++
      requested.toText
  | .settlementWalletNotFound user => "User " ++ toString user ++ " has no settlement wallet"
  | .notFound id => "Withdrawal request not found: " ++ toString id
  | .storage context source => "Storage failure (" ++ context ++ "): " ++ source.message
  | .posting context source => "Payout posting failed (" ++ context ++ "): " ++ source.message

instance : Reported RewardError := ⟨code, category, message⟩

end RewardError

-- Reads a name in any case, with blanks around it.
def WithdrawalStatus.read (s : String) : Except RewardError WithdrawalStatus :=
  let name := (Text.trimmed s).toLower
  (WithdrawalStatus.ofName? name).elim (.error (.invalidStatus name)) .ok

end Treasury
