import Treasury.Wallet.Basic
import Treasury.Store.Failure

namespace Treasury

inductive WalletError where
  | unsupportedCurrency (code : String)
  | invalidWalletType (name : String)
  | invalidStatusTransition (wallet : WalletId) (old new : WalletStatus)
  | duplicateWallet (ownerId : Int) (currency : Currency)
  | walletNotEmpty (wallet : WalletId)
  | notFound (what : String)
  | storage (context : String) (source : StoreError)
deriving DecidableEq

namespace WalletError

def code : WalletError → String
  | .unsupportedCurrency _ => "UNSUPPORTED_CURRENCY"
  | .invalidWalletType _ => "INVALID_WALLET_TYPE"
  | .invalidStatusTransition _ _ _ => "INVALID_STATUS_TRANSITION"
  | .duplicateWallet _ _ => "DUPLICATE_WALLET"
  | .walletNotEmpty _ => "WALLET_NOT_EMPTY"
  | .notFound _ => "WALLET_NOT_FOUND"
  | .storage _ _ => "STORAGE_ERROR"

def category : WalletError → Category
  | .unsupportedCurrency _ | .invalidWalletType _ | .invalidStatusTransition _ _ _ => .validation
  | .duplicateWallet _ _ | .walletNotEmpty _ => .conflict
  | .notFound _ => .notFound
  | .storage _ source => source.category

def message : WalletError → String
  | .unsupportedCurrency code => "Unsupported currency: " ++ code
  | .invalidWalletType name => "Invalid wallet type: " ++ name
  | .invalidStatusTransition wallet old new =>
    "Invalid status transition for wallet " ++ toString wallet ++ ": " ++ old.name ++ " -> " ++
      new.name
  | .duplicateWallet ownerId currency =>
    "Wallet already exists for owner " ++ toString ownerId ++ " in " ++ currency.code
  | .walletNotEmpty wallet =>
    "Wallet " ++ toString wallet ++ " still holds a balance and cannot be closed"
  | .notFound what => "Wallet not found: " ++ what
  | .storage context source => "Storage failure (" ++ context ++ "): " ++ source.message

instance : Reported WalletError := ⟨code, category, message⟩

end WalletError

-- Reads a name in any case, with blanks around it.
def WalletType.read (s : String) : Except WalletError WalletType :=
  let name := (Text.trimmed s).toLower
  (WalletType.ofName? name).elim (.error (.invalidWalletType name)) .ok

-- The currency is looked at first; without a type the wallet is a personal one.
def WalletRequest.parse (r : WalletRequest) : Except WalletError (Currency × WalletType) :=
  match Currency.read r.currency with
  | .error _ => .error (.unsupportedCurrency r.currency)
  | .ok currency =>
    match r.walletType with
    | none => .ok (currency, .personal)
    | some name => (WalletType.read name).map (currency, ·)

end Treasury
