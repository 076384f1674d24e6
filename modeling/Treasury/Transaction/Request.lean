import Treasury.Transaction.Record

namespace Treasury

structure DepositRequest where
  idempotencyKey : Option String
  walletId : WalletId
  currency : Currency
  amount : Decimal
  sourceReference : String
  description : String
deriving DecidableEq

structure TransferRequest where
  idempotencyKey : Option String
  sourceWalletId : WalletId
  destination : Destination
  currency : Currency
  amount : Decimal
  fee : Decimal
  description : String
deriving DecidableEq

structure GiftCardRequest where
  idempotencyKey : Option String
  walletId : WalletId
  productId : Int
  quantity : UInt32
  -- The face value of one card, in the currency of its recipient.
  unitPrice : Decimal
  recipientEmail : Option String
  description : String
deriving DecidableEq

structure PayoutRequest where
  idempotencyKey : Option String
  walletId : WalletId
  currency : Currency
  amount : Decimal
  fee : Decimal
  bankCode : String
  accountNumber : String
  accountName : String
  description : String
deriving DecidableEq

structure SendRequest where
  idempotencyKey : Option String
  walletId : WalletId
  currency : Currency
  amount : Decimal
  fee : Decimal
  network : String
  asset : String
  address : String
  description : String
deriving DecidableEq

end Treasury
