import Treasury.Process

namespace Treasury.Rates

def pair (base quote : Currency) : String := base.code ++ "/" ++ quote.code

def record (r : Rate) : Task RateError Rate := do
  if r.rate ≤ 0 then Task.refuse (.invalidRate r.rate)
  else
    let refuse := RateError.storage ("record rate " ++ pair r.base r.quote)
    Task.unit refuse do
      (Store.insertRate r).told refuse
      Work.commit.told refuse
      Work.report (.of .rates .info "Exchange rate recorded"
        [("base", .shown r.base.code), ("quote", .shown r.quote.code), ("rate", .shown r.rate.toText)])
      return r

-- A currency is worth one of itself, whatever was recorded.
def get (base quote : Currency) : Task RateError Decimal :=
  if base = quote then return 1
  else
    let refuse := RateError.storage ("get rate " ++ pair base quote)
    Task.unit refuse do
      let now ← Work.now
      let r ← Work.found (.noRateAvailable base quote) (← (Store.latestRate base quote now).told refuse)
      Work.report (.of .rates .debug "Exchange rate resolved"
        [("base", .shown base.code), ("quote", .shown quote.code), ("rate", .shown r.rate.toText)])
      return r.rate

-- The amount in minor units of the quote currency.
def convert (amount : Decimal) (base quote : Currency) : Task RateError Decimal := do
  let rate ← get base quote
  return quote.round (← Task.exactly (amount.mul rate))

end Treasury.Rates
