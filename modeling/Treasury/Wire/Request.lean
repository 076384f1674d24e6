import Treasury.Wire.Payload
import Treasury.Transaction.Request

namespace Treasury

open Json (ofInt ofNat ofDecimal option)

def WalletRequest.ofJson? (j : Json) : Option WalletRequest := do
  let f ← j.fields? ["currency", "type"]
  let currency ← f.required "currency" Json.text?
  return ⟨currency, ← f.optional "type" Json.text?⟩

def DepositRequest.ofJson? (j : Json) : Option DepositRequest := do
  let f ← j.fields? ["idempotency_key", "wallet_id", "currency", "amount", "source_reference",
    "description"]
  let idempotencyKey ← f.optional "idempotency_key" Json.text?
  let walletId ← f.required "wallet_id" WalletId.ofJson?
  let currency ← f.required "currency" Currency.ofJson?
  let amount ← f.required "amount" Json.decimal?
  let sourceReference ← f.required "source_reference" Json.text?
  let description ← f.defaulted "description" "" Json.text?
  return { idempotencyKey, walletId, currency, amount, sourceReference, description }

def DepositRequest.toJson (r : DepositRequest) : Json :=
  .object [("idempotency_key", option .text r.idempotencyKey), ("wallet_id", r.walletId.toJson),
    ("currency", r.currency.toJson), ("amount", ofDecimal r.amount),
    ("source_reference", .text r.sourceReference), ("description", .text r.description)]

def TransferRequest.ofJson? (j : Json) : Option TransferRequest := do
  let f ← j.fields? ["idempotency_key", "source_wallet_id", "destination", "currency", "amount",
    "fee", "description"]
  let idempotencyKey ← f.optional "idempotency_key" Json.text?
  let sourceWalletId ← f.required "source_wallet_id" WalletId.ofJson?
  let destination ← f.required "destination" (Destination.ofJsonWithin? 1)
  let currency ← f.required "currency" Currency.ofJson?
  let amount ← f.required "amount" Json.decimal?
  let fee ← f.defaulted "fee" 0 Json.decimal?
  let description ← f.defaulted "description" "" Json.text?
  return { idempotencyKey, sourceWalletId, destination, currency, amount, fee, description }

def TransferRequest.toJson (r : TransferRequest) : Json :=
  .object [("idempotency_key", option .text r.idempotencyKey),
    ("source_wallet_id", r.sourceWalletId.toJson), ("destination", r.destination.toJson),
    ("currency", r.currency.toJson), ("amount", ofDecimal r.amount), ("fee", ofDecimal r.fee),
    ("description", .text r.description)]

def GiftCardRequest.ofJson? (j : Json) : Option GiftCardRequest := do
  let f ← j.fields? ["idempotency_key", "wallet_id", "product_id", "quantity", "unit_price",
    "recipient_email", "description"]
  let idempotencyKey ← f.optional "idempotency_key" Json.text?
  let walletId ← f.required "wallet_id" WalletId.ofJson?
  let productId ← f.required "product_id" Json.int64?
  let quantity ← f.required "quantity" Json.uint32?
  let unitPrice ← f.required "unit_price" Json.decimal?
  let recipientEmail ← f.optional "recipient_email" Json.text?
  let description ← f.defaulted "description" "" Json.text?
  return { idempotencyKey, walletId, productId, quantity, unitPrice, recipientEmail, description }

def GiftCardRequest.toJson (r : GiftCardRequest) : Json :=
  .object [("idempotency_key", option .text r.idempotencyKey), ("wallet_id", r.walletId.toJson),
    ("product_id", ofInt r.productId), ("quantity", ofNat r.quantity.toNat),
    ("unit_price", ofDecimal r.unitPrice), ("recipient_email", option .text r.recipientEmail),
    ("description", .text r.description)]

def PayoutRequest.ofJson? (j : Json) : Option PayoutRequest := do
  let f ← j.fields? ["idempotency_key", "wallet_id", "currency", "amount", "fee", "bank_code",
    "account_number", "account_name", "description"]
  let idempotencyKey ← f.optional "idempotency_key" Json.text?
  let walletId ← f.required "wallet_id" WalletId.ofJson?
  let currency ← f.required "currency" Currency.ofJson?
  let amount ← f.required "amount" Json.decimal?
  let fee ← f.defaulted "fee" 0 Json.decimal?
  let bankCode ← f.required "bank_code" Json.text?
  let accountNumber ← f.required "account_number" Json.text?
  let accountName ← f.required "account_name" Json.text?
  let description ← f.defaulted "description" "" Json.text?
  return { idempotencyKey, walletId, currency, amount, fee, bankCode, accountNumber, accountName,
           description }

def PayoutRequest.toJson (r : PayoutRequest) : Json :=
  .object [("idempotency_key", option .text r.idempotencyKey), ("wallet_id", r.walletId.toJson),
    ("currency", r.currency.toJson), ("amount", ofDecimal r.amount), ("fee", ofDecimal r.fee),
    ("bank_code", .text r.bankCode), ("account_number", .text r.accountNumber),
    ("account_name", .text r.accountName), ("description", .text r.description)]

def SendRequest.ofJson? (j : Json) : Option SendRequest := do
  let f ← j.fields? ["idempotency_key", "wallet_id", "currency", "amount", "fee", "network",
    "asset", "address", "description"]
  let idempotencyKey ← f.optional "idempotency_key" Json.text?
  let walletId ← f.required "wallet_id" WalletId.ofJson?
  let currency ← f.required "currency" Currency.ofJson?
  let amount ← f.required "amount" Json.decimal?
  let fee ← f.defaulted "fee" 0 Json.decimal?
  let network ← f.required "network" Json.text?
  let asset ← f.required "asset" Json.text?
  let address ← f.required "address" Json.text?
  let description ← f.defaulted "description" "" Json.text?
  return { idempotencyKey, walletId, currency, amount, fee, network, asset, address, description }

def SendRequest.toJson (r : SendRequest) : Json :=
  .object [("idempotency_key", option .text r.idempotencyKey), ("wallet_id", r.walletId.toJson),
    ("currency", r.currency.toJson), ("amount", ofDecimal r.amount), ("fee", ofDecimal r.fee),
    ("network", .text r.network), ("asset", .text r.asset), ("address", .text r.address),
    ("description", .text r.description)]

end Treasury
