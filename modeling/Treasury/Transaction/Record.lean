import Treasury.Transaction.Kind
import Treasury.Money
import Treasury.Identifier.Kinds
import Treasury.Time.Instant

namespace Treasury

-- Where a transfer goes.
inductive Destination where
  | wallet (id : WalletId)
  | external (accountReference : String) (institution : Option String)
deriving DecidableEq

-- What a provider's answer left behind.
structure Settlement where
  provider : String
  -- The provider's own total, in the currency it was quoted in.
  settledAmount : Option Decimal
  -- What the wallet got back (or paid more, when negative) against the estimate.
  adjustment : Option Decimal
  -- An extra charge that the wallet could not cover.
  shortfall : Option Decimal
  failureReason : Option String
deriving DecidableEq

def Settlement.by (provider : String) : Settlement := ⟨provider, none, none, none, none⟩

-- What a transaction is about, by platform.
inductive Details where
  | transfer (destination : Destination) (exchangeRate : Option Decimal)
      (creditedAmount : Decimal) (creditedCurrency : Currency)
  | deposit (sourceReference : String)
  | giftCard (productId : Int) (productName : String) (quantity : UInt32) (unitPrice : Decimal)
      (recipientCurrency : String) (recipientEmail : Option String) (settlement : Option Settlement)
  | fiatPayout (bankCode accountNumber accountName : String) (settlement : Option Settlement)
  | crypto (network asset address : String) (settlement : Option Settlement)
  | referral (withdrawal : WithdrawalId)
deriving DecidableEq

namespace Details

def platform : Details → Platform
  | .transfer _ _ _ _ | .deposit _ => .onPlatform
  | .giftCard _ _ _ _ _ _ _ => .giftCard
  | .fiatPayout _ _ _ _ => .fiat
  | .crypto _ _ _ _ => .crypto
  | .referral _ => .referral

def settlement? : Details → Option Settlement
  | .giftCard _ _ _ _ _ _ s | .fiatPayout _ _ _ s | .crypto _ _ _ s => s
  | _ => none

-- Adds the settlement where the platform has one.
def settle (s : Settlement) : Details → Details
  | .giftCard productId productName quantity unitPrice currency email _ =>
    .giftCard productId productName quantity unitPrice currency email (some s)
  | .fiatPayout bankCode accountNumber accountName _ =>
    .fiatPayout bankCode accountNumber accountName (some s)
  | .crypto network asset address _ => .crypto network asset address (some s)
  | details => details

end Details

structure Transaction where
  id : TransactionId
  idempotencyKey : Option String
  kind : TransactionKind
  status : TransactionStatus
  -- The source of a debit, the destination of a credit.
  walletId : WalletId
  ownerId : Int
  currency : Currency
  -- Without the fee.
  amount : Decimal
  fee : Decimal
  -- From the provider's currency to the wallet's, held for the whole operation.
  exchangeRate : Option Decimal
  description : String
  externalReference : Option String
  failure : Option String
  details : Details
  createdAt : Instant
  updatedAt : Instant
deriving DecidableEq

-- What is known of a transaction before it has an id, a status and times.
structure Draft where
  idempotencyKey : Option String
  kind : TransactionKind
  walletId : WalletId
  ownerId : Int
  currency : Currency
  amount : Decimal
  fee : Decimal
  exchangeRate : Option Decimal
  description : String
  details : Details
deriving DecidableEq

def Draft.toTransaction (d : Draft) (id : TransactionId) (now : Instant) : Transaction where
  id
  idempotencyKey := d.idempotencyKey
  kind := d.kind
  status := .pending
  walletId := d.walletId
  ownerId := d.ownerId
  currency := d.currency
  amount := d.amount
  fee := d.fee
  exchangeRate := d.exchangeRate
  description := d.description
  externalReference := none
  failure := none
  details := d.details
  createdAt := now
  updatedAt := now

namespace Transaction

def total (t : Transaction) : Except Decimal.Overflow Decimal := t.amount.add t.fee

def platform (t : Transaction) : Platform := t.details.platform

def direction (t : Transaction) : Direction := t.kind.direction

def display (t : Transaction) : String :=
  "Transaction[" ++ toString t.id ++ "] " ++ t.kind.name ++ " " ++ t.platform.name ++ " wallet=" ++
    toString t.walletId ++ " amount=" ++ t.amount.toText ++ " fee=" ++ t.fee.toText ++ " " ++
    t.currency.code ++ " status=" ++ t.status.name

end Transaction

-- A change of status. A reference or failure that it does not bring is kept.
structure TransactionUpdate where
  status : TransactionStatus
  externalReference : Option String
  failure : Option String
  details : Details
deriving DecidableEq

def TransactionUpdate.apply (u : TransactionUpdate) (t : Transaction) : Transaction :=
  { t with
    status := u.status
    externalReference := u.externalReference.or t.externalReference
    failure := u.failure.or t.failure
    details := u.details }

end Treasury
