import Treasury.Wallet.Basic
import Treasury.Store.Failure

namespace Treasury

-- The direction that a wallet's status forbids.
inductive PostingSide where
  | debited
  | credited
deriving DecidableEq, Repr

def PostingSide.name : PostingSide → String
  | .debited => "debited"
  | .credited => "credited"

inductive PostingError where
  | insufficientFunds (wallet : WalletId) (available required : Decimal)
  | walletInactive (wallet : WalletId) (status : WalletStatus) (side : PostingSide)
  | nonPositiveAmount (amount : Decimal)
  | store (source : StoreError)
deriving DecidableEq

namespace PostingError

def name : PostingError → String
  | .insufficientFunds _ _ _ => "InsufficientFunds"
  | .walletInactive _ _ _ => "WalletInactive"
  | .nonPositiveAmount _ => "NonPositiveAmount"
  | .store _ => "Store"

def category : PostingError → Category
  | .insufficientFunds _ _ _ => .insufficientResource
  | .walletInactive _ _ _ => .conflict
  | .nonPositiveAmount _ => .internal
  | .store source => source.category

def message : PostingError → String
  | .insufficientFunds wallet available required =>
    "Insufficient funds in wallet " ++ toString wallet ++ ": available " ++ available.toText ++
      ", required " ++ required.toText
  | .walletInactive wallet status side =>
    "Wallet " ++ toString wallet ++ " is " ++ status.name ++ " and cannot be " ++ side.name
  | .nonPositiveAmount amount => "Posting amount must be positive, got " ++ amount.toText
  | .store source => "Storage failure: " ++ source.message

instance : Reported PostingError := ⟨name, category, message⟩

end PostingError
end Treasury
