import Treasury.Proofs.World.Basic
import Treasury.Proofs.Service.Units
import Treasury.Proofs.Settlement.Standing

namespace Treasury

open Transactions

inductive Request where
  | deposit (r : DepositRequest)
  | transfer (r : TransferRequest)
  | giftCard (r : GiftCardRequest)
  | payout (r : PayoutRequest)
  | send (r : SendRequest)

def Tables.HeldIn (t : Tables) (id : WalletId) (currency : Currency) : Prop :=
  (t.wallet? id).map (·.currency) = some currency

namespace Tables

variable {t t' : Tables} {id : WalletId} {currency : Currency}

theorem heldIn_iff (stored : t.wallet? id = some w) : t.HeldIn id currency ↔ w.currency = currency := by
  rw [HeldIn, stored, Option.map_some, Option.some.injEq]

theorem not_heldIn (missing : t.wallet? id = none) : ¬ t.HeldIn id currency := by
  rw [HeldIn, missing]
  exact nofun

theorem heldIn_of_faces (faces : t'.wallets.map Wallet.face = t.wallets.map Wallet.face) :
    t'.HeldIn id currency ↔ t.HeldIn id currency := by
  rw [HeldIn, HeldIn, currency_of_faces faces id]

end Tables

-- Whether a transfer can be sent there: a wallet must be known, and a rate into its currency.
def Tables.Lands (t : Tables) (now : Instant) (currency : Currency) : Destination → Prop
  | .external _ _ => True
  | .wallet id => ∃ received, t.HeldIn id received ∧
      (received ≠ currency → ∃ rate, t.rate? currency received now = some rate)

def Tables.Converts (t : Tables) (now : Instant) (r : TransferRequest) : Prop :=
  ∀ id received rate, r.destination = .wallet id → t.HeldIn id received → received ≠ r.currency →
    t.rate? r.currency received now = some rate →
    ∃ product, r.amount.mul rate.rate = .ok product ∧ ¬ received.round product ≤ 0

-- The currency that a transfer is received in, and the rate in force where that is another one.
inductive Tables.Rated (t : Tables) (now : Instant) (r : TransferRequest) :
    Currency → Option Decimal → Prop where
  | outside (sent : r.destination = .external reference institution) : Rated t now r r.currency none
  | home {id : WalletId} (sent : r.destination = .wallet id) (held : t.HeldIn id r.currency) :
      Rated t now r r.currency none
  | foreign {id : WalletId} (sent : r.destination = .wallet id) (held : t.HeldIn id received)
      (apart : received ≠ r.currency) (known : t.rate? r.currency received now = some rate) :
      Rated t now r received (some rate.rate)

-- What comes in: the amount itself, or what it comes to at the rate.
structure Tables.Credits (t : Tables) (now : Instant) (r : TransferRequest) (c : Credited) : Prop where
  rated : t.Rated now r c.currency c.rate
  worth : match c.rate with
    | none => c.amount = r.amount
    | some rate => ∃ product, r.amount.mul rate = .ok product ∧ c.amount = c.currency.round product

theorem Tables.Credits.of {t : Tables} {r : TransferRequest} {c : Credited}
    (credits : t.Credits now r c) : c.Of r r.amount := by
  obtain ⟨currency, amount, rate⟩ := c
  obtain ⟨rated, worth⟩ := credits
  cases rated with
  | outside => exact .inl ⟨rfl, worth⟩
  | home => exact .inl ⟨rfl, worth⟩
  | foreign =>
    obtain ⟨product, _, rounded⟩ := worth
    exact .inr ⟨product, rounded⟩

def Transaction.credited? (r : Transaction) : Option (WalletId × Decimal) :=
  match r.details with
  | .transfer (.wallet id) _ amount _ => some (id, amount)
  | _ => none

namespace Request

def task (g : Gateway) : Request → Task TransactionError Transaction
  | .deposit r => Transactions.deposit r
  | .transfer r => Transactions.transfer r
  | .giftCard r => purchaseGiftCard g r
  | .payout r => payOut g r
  | .send r => sendCrypto g r

def operation (g : Gateway) : Request → Operation
  | .deposit r => .deposit r
  | .transfer r => .transfer r
  | .giftCard r => .purchaseGiftCard g r
  | .payout r => .payOut g r
  | .send r => .sendCrypto g r

theorem operation_activity (q : Request) (g : Gateway) :
    (q.operation g).activity = ⟨(q.task g).run⟩ := by
  cases q <;> rfl

def key : Request → Option String
  | .deposit r => r.idempotencyKey
  | .transfer r => r.idempotencyKey
  | .giftCard r => r.idempotencyKey
  | .payout r => r.idempotencyKey
  | .send r => r.idempotencyKey

def purpose : Request → Purpose
  | .deposit r => ⟨.deposit, r.walletId⟩
  | .transfer r => ⟨.transfer, r.sourceWalletId⟩
  | .giftCard r => ⟨.giftCardPurchase, r.walletId⟩
  | .payout r => ⟨.fiatPayout, r.walletId⟩
  | .send r => ⟨.cryptoSend, r.walletId⟩

def isExternal (q : Request) : Bool := q.purpose.kind.isExternal

-- The records under its key that a request is answered with. The lookup of a gift card purchase
-- takes any of them.
def Accepts (r : Transaction) : Request → Prop
  | .giftCard _ => True
  | q => r.purpose = q.purpose

theorem accepts_of_purpose {q : Request} (alike : r.purpose = q.purpose) : q.Accepts r := by
  cases q with
  | giftCard => trivial
  | _ => exact alike

theorem Accepts.alike {q : Request} (accepts : q.Accepts r) (alike : r'.purpose = r.purpose) :
    q.Accepts r' := by
  cases q with
  | giftCard => trivial
  | _ => exact alike.trans accepts

def price? : Request → Option (Decimal × Decimal)
  | .deposit r => some (r.amount, 0)
  | .transfer r => some (r.amount, r.fee)
  | .giftCard _ => none
  | .payout r => some (r.amount, r.fee)
  | .send r => some (r.amount, r.fee)

-- A record of what a request asks for.
structure Names (q : Request) (x : Transaction) : Prop where
  purpose : x.purpose = q.purpose
  price : ∀ amount fee, q.price? = some (amount, fee) → x.amount = amount ∧ x.fee.value = fee.value
  credited : ∀ r id, q = .transfer r → r.destination = .wallet id →
    ∃ c : Credited, c.Of r r.amount ∧ x.credited? = some (id, c.amount)

namespace Names

variable {x : Transaction}

theorem untransferred {q : Request} (purpose : x.purpose = q.purpose) (other : ∀ r, q ≠ .transfer r)
    (price : ∀ amount fee, q.price? = some (amount, fee) → x.amount = amount ∧ x.fee.value = fee.value) :
    q.Names x := ⟨purpose, price, fun r _ same => absurd same (other r)⟩

theorem deposit {r : DepositRequest} (checked : checkedAmount r.amount r.currency = .ok a)
    (opened : Deposits r a t x legs) (purpose : x.purpose = (Request.deposit r).purpose) :
    (Request.deposit r).Names x := by
  refine untransferred purpose (by rintro _ ⟨⟩) ?_
  rintro _ _ ⟨⟩
  cases opened with
  | deposits _ _ shape =>
    rw [shape]
    exact ⟨checkedAmount_same checked, rfl⟩

theorem transfer {r : TransferRequest} (checked : checkedAmount r.amount r.currency = .ok a)
    (fee : checkedFee r.fee r.currency = .ok f) (worth : c.Of r a)
    (opened : Transfers r a f c t x legs) (purpose : x.purpose = (Request.transfer r).purpose) :
    (Request.transfer r).Names x := by
  have same := checkedAmount_same checked
  cases opened with
  | transfers _ _ _ _ shape =>
    refine ⟨purpose, ?_, ?_⟩
    · rintro _ _ ⟨⟩
      rw [shape]
      exact ⟨same, checkedFee_same fee⟩
    · rintro _ id ⟨⟩ sent
      refine ⟨c, same ▸ worth, ?_⟩
      simp [shape, Transaction.credited?, Draft.toTransaction, transferDraft, sent]

theorem giftCard {r : GiftCardRequest} {u : Quote} (number : u.wallet.id = r.walletId)
    (id : TransactionId) (now : Instant) :
    (Request.giftCard r).Names ((giftCardDraft r u).toTransaction id now) :=
  untransferred (congrArg (Purpose.mk .giftCardPurchase) number) (by rintro _ ⟨⟩) (by rintro _ _ ⟨⟩)

theorem payout {r : PayoutRequest} {w : Wallet} (checked : checkedAmount r.amount r.currency = .ok a)
    (fee : checkedFee r.fee r.currency = .ok f) (number : w.id = r.walletId) (id : TransactionId)
    (now : Instant) : (Request.payout r).Names ((payoutDraft r a f w).toTransaction id now) := by
  refine untransferred (congrArg (Purpose.mk .fiatPayout) number) (by rintro _ ⟨⟩) ?_
  rintro _ _ ⟨⟩
  exact ⟨checkedAmount_same checked, checkedFee_same fee⟩

theorem send {r : SendRequest} {w : Wallet} (checked : checkedAmount r.amount r.currency = .ok a)
    (fee : checkedFee r.fee r.currency = .ok f) (number : w.id = r.walletId) (id : TransactionId)
    (now : Instant) : (Request.send r).Names ((sendDraft r a f w).toTransaction id now) := by
  refine untransferred (congrArg (Purpose.mk .cryptoSend) number) (by rintro _ ⟨⟩) ?_
  rintro _ _ ⟨⟩
  exact ⟨checkedAmount_same checked, checkedFee_same fee⟩

end Names

-- What a request passes before its key is looked up.
def Clear (providers : Registry) (now : Instant) (t : Tables) : Request → Prop
  | .deposit r => ∃ a, checkedAmount r.amount r.currency = .ok a
  | .transfer r =>
    (∃ a, checkedAmount r.amount r.currency = .ok a) ∧ (∃ f, checkedFee r.fee r.currency = .ok f) ∧
      r.destination ≠ .wallet r.sourceWalletId ∧ t.Lands now r.currency r.destination
  | .giftCard r =>
    r.quantity ≠ 0 ∧ ¬ r.unitPrice ≤ 0 ∧ ∃ provider, providers.provider .giftCard = .ok provider
  | .payout r =>
    (∃ a, checkedAmount r.amount r.currency = .ok a) ∧ (∃ f, checkedFee r.fee r.currency = .ok f) ∧
      (∃ provider, providers.provider .fiat = .ok provider) ∧ t.HeldIn r.walletId r.currency
  | .send r =>
    (∃ a, checkedAmount r.amount r.currency = .ok a) ∧ (∃ f, checkedFee r.fee r.currency = .ok f) ∧
      (∃ provider, providers.provider .crypto = .ok provider) ∧ t.HeldIn r.walletId r.currency

theorem Clear.mono {q : Request} (clear : q.Clear providers now t)
    (held : ∀ id currency, t.HeldIn id currency → t'.HeldIn id currency)
    (lands : q.isExternal = false → ∀ currency destination,
      t.Lands now currency destination → t'.Lands now' currency destination) :
    q.Clear providers now' t' := by
  cases q with
  | deposit => exact clear
  | transfer =>
    obtain ⟨amount, fee, apart, there⟩ := clear
    exact ⟨amount, fee, apart, lands rfl _ _ there⟩
  | giftCard => exact clear
  | payout =>
    obtain ⟨amount, fee, configured, there⟩ := clear
    exact ⟨amount, fee, configured, held _ _ there⟩
  | send =>
    obtain ⟨amount, fee, configured, there⟩ := clear
    exact ⟨amount, fee, configured, held _ _ there⟩

def Converts (now : Instant) (t : Tables) : Request → Prop
  | .transfer r => t.Converts now r
  | _ => True

theorem converts_of_external {q : Request} (outside : q.isExternal = true) : q.Converts now t := by
  cases q with
  | transfer => cases outside
  | _ => trivial

-- On a calm server nothing but a conflict keeps a request that is clear from the record under its
-- key.
def Blocked (q : Request) (providers : Registry) (now : Instant) (t : Tables)
    (h : Halt TransactionError) : Prop :=
  ∀ k r, q.key = some k → t.transactionOf? k = some r → q.Clear providers now t →
    q.Converts now t → ¬ q.Accepts r ∧ h = .refused (.idempotencyConflict k)

end Request
end Treasury
