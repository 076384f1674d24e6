import Treasury.Wire.Payload
import Treasury.Service.CatalogSweep
import Treasury.Service.Reconciliation

namespace Treasury

open Json (ofInt ofNat ofDecimal option whenSome)

def Wallet.toJson (w : Wallet) : Json :=
  .object [("id", w.id.toJson), ("owner_id", ofInt w.ownerId), ("currency", w.currency.toJson),
    ("balance", ofDecimal w.balance), ("wallet_type", .text w.walletType.name),
    ("status", .text w.status.name), ("touched", .bool (w.updatedAt != w.createdAt)),
    ("can_debit", .bool w.canDebit), ("can_credit", .bool w.canCredit), ("display", .text w.display)]

def Wallet.Audit.members (a : Wallet.Audit) : List (String × Json) :=
  [("wallet_id", a.walletId.toJson), ("balance", ofDecimal a.balance),
    ("ledger_sum", ofDecimal a.ledgerSum)]

def Wallet.Audit.findings (a : Wallet.Audit) :
    Except Decimal.Overflow (List (String × Json)) := do
  let drift ← a.drift
  return [("drift", ofDecimal drift), ("consistent", .bool drift.isZero)]

def Transaction.toJson (t : Transaction) : Except Decimal.Overflow Json := do
  let total ← t.total
  return .object ([("id", t.id.toJson), ("type", .text t.kind.name),
    ("description", .text t.description), ("transaction_flow", .text t.direction.name),
    ("status", .text t.status.name), ("amount", ofDecimal t.amount), ("fee", ofDecimal t.fee),
    ("currency", t.currency.toJson), ("metadata", t.details.toJson),
    ("touched", .bool (t.updatedAt != t.createdAt)),
    ("idempotency_key", option .text t.idempotencyKey), ("wallet_id", t.walletId.toJson),
    ("owner_id", ofInt t.ownerId), ("exchange_rate", option ofDecimal t.exchangeRate),
    ("failure", option .text t.failure), ("platform", .text t.platform.name),
    ("total", ofDecimal total), ("display", .text t.display)] ++
    whenSome "external_reference" .text t.externalReference)

-- What can be told of an account from its kind and reference.
def Account.members (a : Account) : List (String × Json) :=
  [("display", .text a.display), ("kind_id", ofInt a.kindId), ("on_platform", .bool a.isOnPlatform),
    ("ref", .text a.reference), ("wallet_id", option WalletId.toJson a.walletId?)]

def Entry.toJson (e : Entry) : Json :=
  .object [("transaction_id", e.transactionId.toJson), ("account", e.account.toJson),
    ("currency", e.currency.toJson), ("amount", ofDecimal e.amount),
    ("settlement_amount", ofDecimal e.settlementAmount),
    ("balance_after", option ofDecimal e.balanceAfter), ("on_platform", .bool e.onPlatform),
    ("display", .text e.account.display), ("kind_id", ofInt e.account.kindId)]

def Entry.listToJson (entries : List Entry) : Except Decimal.Overflow Json := do
  return .object [("entries", .array (entries.map toJson)),
    ("settlement_sum", ofDecimal (← settlementSum entries))]

def Outcome.members (o : Outcome) : List (String × Json) :=
  [("display", .text o.display), ("external_reference", option .text o.reference?)]

def Reconciliation.Report.toJson (r : Reconciliation.Report) : Json :=
  .object [("scanned", ofNat r.scanned), ("succeeded", ofNat r.succeeded),
    ("failed", ofNat r.failed), ("still_unknown", ofNat r.stillUnknown), ("errors", ofNat r.errors)]

def Earnings.toJson (e : Earnings) : Except Decimal.Overflow Json := do
  return .object [("user_id", ofInt e.userId), ("total_earned", ofDecimal e.totalEarned),
    ("available_balance", ofDecimal e.available), ("withdrawn_balance", ofDecimal e.withdrawn),
    ("in_flight", ofDecimal (← e.inFlight)), ("consistent", .bool (← e.isConsistent))]

def Withdrawal.toJson (w : Withdrawal) : Json :=
  .object [("id", w.id.toJson), ("user_id", ofInt w.userId), ("amount", ofDecimal w.amount),
    ("wallet_id", w.walletId.toJson), ("status", .text w.status.name),
    ("transaction_id", option TransactionId.toJson w.transactionId),
    ("touched", .bool (w.updatedAt != w.createdAt))]

def Referral.toJson (r : Referral) : Json :=
  .object [("referrer_id", ofInt r.referrerId), ("referee_id", ofInt r.refereeId),
    ("bonus", ofDecimal r.bonus)]

def Product.toJson (p : Product) : Json :=
  .object [("external_id", ofInt p.externalId), ("name", .text p.name), ("brand_id", ofInt p.brandId),
    ("category_id", ofInt p.categoryId), ("country_iso", .text p.countryIso),
    ("global", .bool p.isGlobal), ("denomination_type", .text p.denominationType.name),
    ("recipient_currency", .text p.recipientCurrency), ("sender_currency", .text p.senderCurrency),
    ("sender_fee", ofDecimal p.senderFee), ("discount_percentage", ofDecimal p.discountPercentage),
    ("min_recipient_denomination", option ofDecimal p.minRecipientDenomination),
    ("max_recipient_denomination", option ofDecimal p.maxRecipientDenomination),
    ("sender_exchange_rate", option ofDecimal p.senderExchangeRate)]

def decimals (amounts : List Decimal) : Json := .array (amounts.map ofDecimal)

def Listing.members (l : Listing) : List (String × Json) :=
  [("product", l.product.toJson), ("recipient_denominations", decimals l.recipientDenominations),
    ("sender_denominations", decimals l.senderDenominations)]

def CatalogCounts.toJson (c : CatalogCounts) : Json :=
  .object [("brands", ofNat c.brands), ("categories", ofNat c.categories),
    ("countries", ofNat c.countries), ("products", ofNat c.products), ("logo_urls", ofNat c.logoUrls),
    ("denominations", ofNat c.denominations), ("redeem_instructions", ofNat c.redeemInstructions),
    ("total", option ofNat c.total?)]

def CatalogSweep.Report.members (r : CatalogSweep.Report) : List (String × Json) :=
  [("pages", ofNat r.pages), ("processed", ofNat r.processed), ("succeeded", ofNat r.succeeded),
    ("failed", ofNat r.failed), ("truncated", .bool r.truncated)]

def VendorItem.toJson (i : VendorItem) : Json :=
  .object [("product_id", ofInt i.productId), ("product_name", .text i.productName),
    ("global", .bool i.isGlobal), ("denomination_type", .text i.denominationType.name),
    ("recipient_currency_code", .text i.recipientCurrency),
    ("sender_currency_code", .text i.senderCurrency), ("sender_fee", ofDecimal i.senderFee),
    ("discount_percentage", ofDecimal i.discountPercentage),
    ("min_recipient_denomination", option ofDecimal i.minRecipientDenomination),
    ("max_recipient_denomination", option ofDecimal i.maxRecipientDenomination),
    ("sender_exchange_rate", option ofDecimal i.senderExchangeRate),
    ("fixed_recipient_denominations", decimals i.fixedRecipientDenominations),
    ("fixed_sender_denominations", decimals i.fixedSenderDenominations),
    ("logo_urls", .array (i.logoUrls.map .text)),
    ("brand", .array [ofInt i.brand.externalId, .text i.brand.name]),
    ("category", .array [ofInt i.category.externalId, .text i.category.name]),
    ("country", .array [.text i.country.isoCode, .text i.country.name, option .text i.country.flagUrl]),
    ("redeem", .array [option .text i.redeemInstruction.concise,
      option .text i.redeemInstruction.verbose])]

-- Nothing when no page can follow this one.
def VendorPage.toJson? (p : VendorPage) : Option Json :=
  p.isLast?.map fun last => .object [("number", ofNat p.number.toNat),
    ("total_pages", ofNat p.totalPages.toNat), ("is_last", .bool last),
    ("content", .array (p.content.map VendorItem.toJson))]

end Treasury
