import Treasury.Transaction.Kind
import Treasury.Ledger.Failure
import Treasury.Rate

namespace Treasury

inductive TransactionError where
  | invalidAmount (reason : MoneyError)
  | sameWallet
  | invalidQuantity
  | unsupportedCurrency (code : String)
  | currencyMismatch (wallet : WalletId) (held requested : Currency)
  | invalidDenomination (productId : Int) (unitPrice : Decimal)
  | amountTooSmall
  | insufficientFunds (wallet : WalletId) (available required : Decimal)
  | walletInactive (wallet : WalletId) (status : WalletStatus)
  | walletNotFound (wallet : WalletId)
  | transactionNotFound (id : TransactionId)
  | productNotFound (productId : Int)
  | providerNotConfigured (platform : Platform)
  | idempotencyConflict (key : String)
  | rate (source : RateError)
  | storage (context : String) (source : StoreError)
  | invalidStateTransition (id : TransactionId) (old new : TransactionStatus)
deriving DecidableEq

namespace TransactionError

def code : TransactionError → String
  | .invalidAmount _ => "INVALID_AMOUNT"
  | .sameWallet => "SAME_WALLET"
  | .invalidQuantity => "INVALID_QUANTITY"
  | .unsupportedCurrency _ => "UNSUPPORTED_CURRENCY"
  | .currencyMismatch _ _ _ => "CURRENCY_MISMATCH"
  | .invalidDenomination _ _ => "INVALID_DENOMINATION"
  | .amountTooSmall => "AMOUNT_TOO_SMALL"
  | .insufficientFunds _ _ _ => "INSUFFICIENT_FUNDS"
  | .walletInactive _ _ => "WALLET_INACTIVE"
  | .walletNotFound _ => "WALLET_NOT_FOUND"
  | .transactionNotFound _ => "TRANSACTION_NOT_FOUND"
  | .productNotFound _ => "PRODUCT_NOT_FOUND"
  | .providerNotConfigured _ => "PROVIDER_NOT_CONFIGURED"
  | .idempotencyConflict _ => "IDEMPOTENCY_CONFLICT"
  | .rate source => source.code
  | .storage _ _ => "STORAGE_ERROR"
  | .invalidStateTransition _ _ _ => "INVALID_STATE_TRANSITION"

def category : TransactionError → Category
  | .invalidAmount _ | .sameWallet | .invalidQuantity | .unsupportedCurrency _
  | .currencyMismatch _ _ _ | .invalidDenomination _ _ | .amountTooSmall => .validation
  | .insufficientFunds _ _ _ => .insufficientResource
  | .walletInactive _ _ | .idempotencyConflict _ => .conflict
  | .walletNotFound _ | .transactionNotFound _ | .productNotFound _ => .notFound
  | .providerNotConfigured _ | .invalidStateTransition _ _ _ => .internal
  | .rate source => source.category
  | .storage _ source => source.category

def message : TransactionError → String
  | .invalidAmount reason => "Invalid amount: " ++ reason.message
  | .sameWallet => "Source and destination wallet are the same"
  | .invalidQuantity => "Quantity must be at least 1"
  | .unsupportedCurrency code => "Unsupported currency: " ++ code
  | .currencyMismatch wallet held requested =>
    "Wallet " ++ toString wallet ++ " holds " ++ held.code ++ ", request is in " ++ requested.code
  | .invalidDenomination productId unitPrice =>
    "Product " ++ toString productId ++ " has no denomination " ++ unitPrice.toText
  | .amountTooSmall => "Converted amount rounds to zero"
  | .insufficientFunds wallet available required =>
    "Insufficient funds in wallet " ++ toString wallet ++ ": available " ++ available.toText ++
      ", required " ++ required.toText
  | .walletInactive wallet status => "Wallet " ++ toString wallet ++ " is " ++ status.name
  | .walletNotFound wallet => "Wallet not found: " ++ toString wallet
  | .transactionNotFound id => "Transaction not found: " ++ toString id
  | .productNotFound productId => "Gift card product not found: " ++ toString productId
  | .providerNotConfigured platform => "No " ++ platform.name ++ " provider configured"
  | .idempotencyConflict key =>
    "Idempotency key " ++ key ++ " already used for a different operation"
  | .rate source => source.message
  | .storage context source => "Storage failure (" ++ context ++ "): " ++ source.message
  | .invalidStateTransition id old new =>
    "Invalid state transition: " ++ toString id ++ ": " ++ old.name ++ " -> " ++ new.name

-- A posting that fails, told in the words of the operation that made it.
def ofPosting (context : String) : PostingError → TransactionError
  | .insufficientFunds wallet available required => .insufficientFunds wallet available required
  | .walletInactive wallet status _ => .walletInactive wallet status
  | .nonPositiveAmount _ => .amountTooSmall
  | .store source => .storage context source

instance : Reported TransactionError := ⟨code, category, message⟩

end TransactionError
end Treasury
