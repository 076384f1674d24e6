import Treasury.Service.External
import Treasury.Service.Rates
import Treasury.Transaction.Request

namespace Treasury.Transactions

-- The registered providers and how long they have to answer, in milliseconds.
structure Gateway where
  providers : Registry
  timeout : Nat

-- What a gift card will cost before anything is reserved.
structure Quote where
  wallet : Wallet
  product : Product
  senderCurrency : Currency
  senderAmount : Decimal
  rate : Decimal
  -- In the currency of the wallet.
  amount : Decimal

def loadOffer (r : GiftCardRequest) : Task TransactionError (Wallet × Listing) :=
  let refuse := TransactionError.storage ("quote gift card " ++ toString r.productId)
  Task.unit refuse do
    let w ← Work.found (.walletNotFound r.walletId) (← (Store.findWallet r.walletId).told refuse)
    let listing ← Work.found (.productNotFound r.productId)
      (← (Store.findProductListing r.productId).told refuse)
    return (w, listing)

def senderCurrencyOf (p : Product) : Except TransactionError Currency :=
  (Currency.read p.senderCurrency).mapError fun _ => .unsupportedCurrency p.senderCurrency

-- The price and the vendor's fee of each card, times the number of cards.
def senderAmountOf (price : Decimal) (p : Product) (quantity : UInt32) :
    Except Decimal.Overflow Decimal := do
  (← price.add p.senderFee).mul (.ofUInt32 quantity)

def quote (r : GiftCardRequest) : Task TransactionError Quote := do
  let (wallet, listing) ← loadOffer r
  let price ← Task.found (.invalidDenomination r.productId r.unitPrice)
    (← Task.exactly (listing.senderPrice r.unitPrice))
  let senderCurrency ← Task.checked (senderCurrencyOf listing.product)
  let senderAmount ← Task.exactly (senderAmountOf price listing.product r.quantity)
  let rate ← (Rates.get senderCurrency wallet.currency).told .rate
  let amount := wallet.currency.round (← Task.exactly (senderAmount.mul rate))
  if amount ≤ 0 then Task.refuse .amountTooSmall
  else
    Task.report (.of .transactions .debug "Gift card quoted"
      [("product_id", .number r.productId), ("sender_amount", .shown senderAmount.toText),
        ("rate", .shown rate.toText), ("amount", .shown amount.toText)])
    return ⟨wallet, listing.product, senderCurrency, senderAmount, rate, amount⟩

def giftCardDraft (r : GiftCardRequest) (q : Quote) : Draft :=
  ⟨r.idempotencyKey, .giftCardPurchase, q.wallet.id, q.wallet.ownerId, q.wallet.currency, q.amount, 0,
    if q.senderCurrency = q.wallet.currency then none else some q.rate, r.description,
    .giftCard q.product.externalId q.product.name r.quantity r.unitPrice q.product.recipientCurrency
      r.recipientEmail none⟩

def giftCardOrder (r : GiftCardRequest) (q : Quote) : Order :=
  .giftCard r.productId r.quantity r.unitPrice q.senderAmount q.senderCurrency.code r.recipientEmail

-- The quote is reserved, and then the vendor is asked. A known key is answered before quoting.
def purchaseGiftCard (g : Gateway) (r : GiftCardRequest) : Task TransactionError Transaction := do
  if r.quantity = 0 then Task.refuse .invalidQuantity
  else if r.unitPrice ≤ 0 then Task.refuse (.invalidAmount .invalidAmount)
  else
    let provider ← Task.checked (g.providers.provider .giftCard)
    match ← findByKey r.idempotencyKey with
    | some t => return t
    | none =>
      let q ← quote r
      External.execute g.timeout (giftCardDraft r q) provider (giftCardOrder r q)

def payoutDraft (r : PayoutRequest) (amount fee : Decimal) (w : Wallet) : Draft :=
  ⟨r.idempotencyKey, .fiatPayout, w.id, w.ownerId, w.currency, amount, fee, none, r.description,
    .fiatPayout r.bankCode r.accountNumber r.accountName none⟩

def payoutOrder (r : PayoutRequest) (amount : Decimal) : Order :=
  .payout amount r.currency.code r.bankCode r.accountNumber r.accountName

def payOut (g : Gateway) (r : PayoutRequest) : Task TransactionError Transaction := do
  let amount ← Task.checked (checkedAmount r.amount r.currency)
  let fee ← Task.checked (checkedFee r.fee r.currency)
  let provider ← Task.checked (g.providers.provider .fiat)
  let w ← loadWallet r.walletId
  Task.checked (checkCurrency w r.currency)
  External.execute g.timeout (payoutDraft r amount fee w) provider (payoutOrder r amount)

def sendDraft (r : SendRequest) (amount fee : Decimal) (w : Wallet) : Draft :=
  ⟨r.idempotencyKey, .cryptoSend, w.id, w.ownerId, w.currency, amount, fee, none, r.description,
    .crypto r.network r.asset r.address none⟩

def sendOrder (r : SendRequest) (amount : Decimal) : Order :=
  .send amount r.currency.code r.network r.asset r.address

def sendCrypto (g : Gateway) (r : SendRequest) : Task TransactionError Transaction := do
  let amount ← Task.checked (checkedAmount r.amount r.currency)
  let fee ← Task.checked (checkedFee r.fee r.currency)
  let provider ← Task.checked (g.providers.provider .crypto)
  let w ← loadWallet r.walletId
  Task.checked (checkCurrency w r.currency)
  External.execute g.timeout (sendDraft r amount fee w) provider (sendOrder r amount)

end Treasury.Transactions
