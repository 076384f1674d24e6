import Treasury.Money
import Treasury.Time.Instant
import Treasury.Store.Failure

namespace Treasury

structure Rate where
  base : Currency
  quote : Currency
  rate : Decimal
  effectiveAt : Instant
deriving DecidableEq

inductive RateError where
  | noRateAvailable (base quote : Currency)
  | invalidRate (rate : Decimal)
  | storage (context : String) (source : StoreError)
deriving DecidableEq

namespace RateError

def code : RateError → String
  | .noRateAvailable _ _ => "NO_RATE_AVAILABLE"
  | .invalidRate _ => "INVALID_RATE"
  | .storage _ _ => "STORAGE_ERROR"

def category : RateError → Category
  | .noRateAvailable _ _ => .notFound
  | .invalidRate _ => .validation
  | .storage _ source => source.category

def message : RateError → String
  | .noRateAvailable base quote =>
    "No exchange rate available for " ++ base.code ++ "/" ++ quote.code
  | .invalidRate rate => "Exchange rate must be positive, got " ++ rate.toText
  | .storage context source => "Storage failure (" ++ context ++ "): " ++ source.message

instance : Reported RateError := ⟨code, category, message⟩

end RateError
end Treasury
