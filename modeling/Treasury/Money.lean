import Treasury.Decimal.Text

namespace Treasury

inductive Currency where
  | ngn
  | usd
  | eur
deriving DecidableEq, Repr

inductive MoneyError where
  | precisionOverflow (provided max : Nat)
  | invalidAmount
  | invalidFormat (reason : String)
  | unsupportedCurrency (code : String)
deriving DecidableEq, Repr

namespace MoneyError

def name : MoneyError → String
  | .precisionOverflow _ _ => "PrecisionOverflow"
  | .invalidAmount => "InvalidAmount"
  | .invalidFormat _ => "InvalidFormat"
  | .unsupportedCurrency _ => "UnsupportedCurrency"

def message : MoneyError → String
  | .precisionOverflow provided max =>
    "Precision overflow: provided " ++ toString provided ++ " decimals, max allowed " ++ toString max
  | .invalidAmount => "Amount must be positive"
  | .invalidFormat reason => "Invalid format: " ++ reason
  | .unsupportedCurrency code => "Unsupported currency: " ++ code

end MoneyError

namespace Currency

def all : List Currency := [.ngn, .usd, .eur]

def code : Currency → String
  | .ngn => "NGN"
  | .usd => "USD"
  | .eur => "EUR"

instance : ToString Currency := ⟨code⟩

def ofCode? (s : String) : Option Currency := all.find? (·.code == s)

def read (s : String) : Except MoneyError Currency :=
  let code := (Text.trimmed s).toUpper
  (ofCode? code).elim (.error (.unsupportedCurrency code)) .ok

def decimals : Currency → Nat
  | _ => 2

-- A computed value in minor units, half to even.
def round (c : Currency) (d : Decimal) : Decimal := d.round c.decimals

end Currency

namespace Money

-- An amount is positive and a multiple of the minor unit.
def validateAmount (amount : Decimal) (currency : Currency) : Except MoneyError Decimal :=
  if amount.negative || amount.isZero then .error .invalidAmount
  else
    let provided := amount.normalize.scale
    if currency.decimals < provided then .error (.precisionOverflow provided currency.decimals)
    else .ok amount

-- A fee may also be zero, however that is written.
def validateFee (fee : Decimal) (currency : Currency) : Except MoneyError Decimal :=
  if fee.isZero then .ok 0 else validateAmount fee currency

-- An amount as a client writes it: digits on both sides of the point, no sign.
def parseAmount (text : String) (currency : Currency) : Except MoneyError Decimal :=
  let cs := Text.trim text.toList
  if cs = [] then .error (.invalidFormat "empty string")
  else if cs.head? = some '-' ∨ cs.head? = some '+' then .error .invalidAmount
  else if cs.head? = some '.' then
    .error (.invalidFormat "missing leading zero (e.g., use 0.5 instead of .5)")
  else if cs.getLast? = some '.' then
    .error (.invalidFormat "missing fractional part (e.g., use 5.0 instead of 5.)")
  else
    match Decimal.ofChars cs with
    | .error e => .error (.invalidFormat (.ofList cs ++ ": " ++ e.message))
    | .ok amount => validateAmount amount currency

end Money
end Treasury
