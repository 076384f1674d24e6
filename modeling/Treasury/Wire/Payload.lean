import Treasury.Wire.Scalar
import Treasury.Provider
import Treasury.Ledger.Entry

namespace Treasury

open Json (option whenSome ofDecimal)

namespace Destination

def toJson : Destination → Json
  | .wallet id => .object [("kind", .text "wallet"), ("wallet_id", id.toJson)]
  | .external reference institution =>
    .object [("kind", .text "external"), ("account_reference", .text reference),
      ("institution", option .text institution)]

def ofShape? (variant : String) (shape : Json.Shape) : Option Destination := do
  if variant = "wallet" then
    let f ← shape.fields? ["wallet_id"]
    return .wallet (← f.required "wallet_id" WalletId.ofJson?)
  else if variant = "external" then
    let f ← shape.fields? ["account_reference", "institution"]
    let reference ← f.required "account_reference" Json.text?
    return .external reference (← f.nullableField "institution" Json.text?)
  else none

def ofJsonWithin? (level : Nat) (j : Json) : Option Destination :=
  (j.tagged? level "kind").bind fun (variant, shape) => ofShape? variant shape

def ofJson? (j : Json) : Option Destination := ofJsonWithin? 0 j

def ofHeld? (j : Json) : Option Destination :=
  (j.heldTagged? ["wallet", "external"] "kind").bind fun (variant, shape) => ofShape? variant shape

end Destination

namespace Settlement

def toJson (s : Settlement) : Json :=
  .object ([("provider", .text s.provider)] ++
    whenSome "settled_amount" ofDecimal s.settledAmount ++
    whenSome "adjustment" ofDecimal s.adjustment ++
    whenSome "shortfall" ofDecimal s.shortfall ++
    whenSome "failure_reason" .text s.failureReason)

def ofJson? (j : Json) : Option Settlement := do
  let f ← j.fields? ["provider", "settled_amount", "adjustment", "shortfall", "failure_reason"]
  let provider ← f.required "provider" Json.text?
  let settledAmount ← f.optional "settled_amount" Json.decimal?
  let adjustment ← f.optional "adjustment" Json.decimal?
  let shortfall ← f.optional "shortfall" Json.decimal?
  let failureReason ← f.optional "failure_reason" Json.text?
  return { provider, settledAmount, adjustment, shortfall, failureReason }

end Settlement

namespace Details

def members : Details → List (String × Json)
  | .transfer destination rate amount currency =>
    [("destination", destination.toJson)] ++ whenSome "exchange_rate" ofDecimal rate ++
      [("credited_amount", ofDecimal amount), ("credited_currency", currency.toJson)]
  | .deposit reference => [("source_reference", .text reference)]
  | .giftCard productId productName quantity unitPrice currency email settlement =>
    [("product_id", .ofInt productId), ("product_name", .text productName),
      ("quantity", .ofNat quantity.toNat), ("unit_price", ofDecimal unitPrice),
      ("recipient_currency", .text currency)] ++
      whenSome "recipient_email" .text email ++ whenSome "settlement" Settlement.toJson settlement
  | .fiatPayout bankCode accountNumber accountName settlement =>
    [("bank_code", .text bankCode), ("account_number", .text accountNumber),
      ("account_name", .text accountName)] ++ whenSome "settlement" Settlement.toJson settlement
  | .crypto network asset address settlement =>
    [("network", .text network), ("asset", .text asset), ("address", .text address)] ++
      whenSome "settlement" Settlement.toJson settlement
  | .referral id => [("withdrawal_request_id", id.toJson)]

def tag : Details → String
  | .transfer _ _ _ _ => "internal"
  | .deposit _ => "deposit"
  | .giftCard _ _ _ _ _ _ _ => "gift_card"
  | .fiatPayout _ _ _ _ => "fiat_payout"
  | .crypto _ _ _ _ => "crypto"
  | .referral _ => "referral"

def toJson (d : Details) : Json := .object (("platform", .text d.tag) :: d.members)

def ofShape? (variant : String) (shape : Json.Shape) : Option Details := do
  if variant = "internal" then
    let f ← shape.fields? ["destination", "exchange_rate", "credited_amount", "credited_currency"]
    let destination ← f.required "destination" Destination.ofHeld?
    let rate ← f.optional "exchange_rate" Json.decimal?
    let amount ← f.required "credited_amount" Json.decimal?
    return .transfer destination rate amount
      (← f.required "credited_currency" (Json.heldChoice? Currency.ofCode?))
  else if variant = "deposit" then
    let f ← shape.fields? ["source_reference"]
    return .deposit (← f.required "source_reference" Json.text?)
  else if variant = "gift_card" then
    let f ← shape.fields? ["product_id", "product_name", "quantity", "unit_price",
      "recipient_currency", "recipient_email", "settlement"]
    let productId ← f.required "product_id" Json.int64?
    let productName ← f.required "product_name" Json.text?
    let quantity ← f.required "quantity" Json.uint32?
    let unitPrice ← f.required "unit_price" Json.decimal?
    let currency ← f.required "recipient_currency" Json.text?
    let email ← f.optional "recipient_email" Json.text?
    return .giftCard productId productName quantity unitPrice currency email
      (← f.optional "settlement" Settlement.ofJson?)
  else if variant = "fiat_payout" then
    let f ← shape.fields? ["bank_code", "account_number", "account_name", "settlement"]
    let bankCode ← f.required "bank_code" Json.text?
    let accountNumber ← f.required "account_number" Json.text?
    let accountName ← f.required "account_name" Json.text?
    return .fiatPayout bankCode accountNumber accountName
      (← f.optional "settlement" Settlement.ofJson?)
  else if variant = "crypto" then
    let f ← shape.fields? ["network", "asset", "address", "settlement"]
    let network ← f.required "network" Json.text?
    let asset ← f.required "asset" Json.text?
    let address ← f.required "address" Json.text?
    return .crypto network asset address (← f.optional "settlement" Settlement.ofJson?)
  else if variant = "referral" then
    let f ← shape.fields? ["withdrawal_request_id"]
    return .referral (← f.required "withdrawal_request_id" WithdrawalId.ofJson?)
  else none

def ofJson? (j : Json) : Option Details :=
  (j.tagged? 0 "platform").bind fun (variant, shape) => ofShape? variant shape

end Details

namespace Outcome

def toJson : Outcome → Json
  | .success reference amount =>
    .object [("outcome", .text "success"), ("external_reference", .text reference),
      ("settled_amount", option ofDecimal amount)]
  | .failed reason reference =>
    .object [("outcome", .text "failed"), ("reason", .text reason),
      ("external_reference", option .text reference)]
  | .unknown reference =>
    .object [("outcome", .text "unknown"), ("external_reference", option .text reference)]

def ofJson? (j : Json) : Option Outcome := do
  let (variant, shape) ← j.tagged? 0 "outcome"
  if variant = "success" then
    let f ← shape.fields? ["external_reference", "settled_amount"]
    let reference ← f.required "external_reference" Json.text?
    return .success reference (← f.nullableField "settled_amount" Json.decimal?)
  else if variant = "failed" then
    let f ← shape.fields? ["reason", "external_reference"]
    let reason ← f.required "reason" Json.text?
    return .failed reason (← f.nullableField "external_reference" Json.text?)
  else if variant = "unknown" then
    let f ← shape.fields? ["external_reference"]
    return .unknown (← f.nullableField "external_reference" Json.text?)
  else none

end Outcome

namespace Account

def toJson : Account → Json
  | .wallet id => .object [("kind", .text "wallet"), ("ref", id.toJson)]
  | .fees => .object [("kind", .text "fees")]
  | .rewards => .object [("kind", .text "rewards")]
  | .external r => .object [("kind", .text "external"), ("ref", .text r)]

def ofReference? (kind : String) (reference : Option Json) : Option Account :=
  if kind = "wallet" then (reference.bind WalletId.ofJson?).map .wallet
  else if kind = "external" then (reference.bind Json.text?).map .external
  else if kind = "fees" then
    match reference with
    | none | some .null => some .fees
    | _ => none
  else if kind = "rewards" then
    match reference with
    | none | some .null => some .rewards
    | _ => none
  else none

def ofJson? : Json → Option Account
  | .object members => do
    let f ← Json.fields? ["kind", "ref"] (.object members)
    ofReference? (← f.required "kind" Json.name?) (f.get? "ref")
  | .array [kind, reference] => kind.name?.bind fun kind => ofReference? kind (some reference)
  | _ => none

end Account

namespace Rate

def toJson (r : Rate) : Json :=
  .object [("base", r.base.toJson), ("quote", r.quote.toJson), ("rate", ofDecimal r.rate),
    ("effective_at", r.effectiveAt.toJson)]

def ofJson? (j : Json) : Option Rate := do
  let f ← j.fields? ["base", "quote", "rate", "effective_at"]
  let base ← f.required "base" Currency.ofJson?
  let quote ← f.required "quote" Currency.ofJson?
  let rate ← f.required "rate" Json.decimal?
  return { base, quote, rate, effectiveAt := ← f.required "effective_at" Instant.ofJson? }

end Rate
end Treasury
