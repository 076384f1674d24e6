import Treasury.Service.Deposit
import Treasury.Service.Transfer
import Treasury.Service.Payment
import Treasury.Service.Rewards
import Treasury.Proofs.Ledger.Booking

namespace Treasury

open Transactions

namespace TransactionKind

def isExternal : TransactionKind → Bool
  | .giftCardPurchase | .fiatPayout | .cryptoSend => true
  | _ => false

end TransactionKind

-- A price is above zero and in the minor units of the wallet that pays it.
structure Transactions.Quote.Priced (q : Quote) : Prop where
  positive : ¬ q.amount ≤ 0
  rounded : ∃ exact, q.amount = q.wallet.currency.round exact

def Transactions.Credited.Of (r : TransferRequest) (a : Decimal) (c : Credited) : Prop :=
  (c.currency = r.currency ∧ c.amount = a) ∨ ∃ exact, c.amount = c.currency.round exact

-- The drafts that are ever reserved, with what was checked of them before.
inductive Draft.Placed : Draft → Prop where
  | giftCard (request : GiftCardRequest) (quote : Quote) (priced : quote.Priced) :
      Placed (giftCardDraft request quote)
  | payout (request : PayoutRequest) (w : Wallet)
      (amount : checkedAmount request.amount request.currency = .ok a)
      (fee : checkedFee request.fee request.currency = .ok f)
      (currency : w.currency = request.currency) : Placed (payoutDraft request a f w)
  | send (request : SendRequest) (w : Wallet)
      (amount : checkedAmount request.amount request.currency = .ok a)
      (fee : checkedFee request.fee request.currency = .ok f)
      (currency : w.currency = request.currency) : Placed (sendDraft request a f w)

theorem checkedAmount_same (checked : checkedAmount amount currency = .ok a) : a = amount := by
  unfold checkedAmount Money.validateAmount at checked
  split at checked
  · cases checked
  · dsimp only at checked
    split at checked
    · cases checked
    · exact (Except.ok.inj checked).symm

theorem checkedAmount_positive (checked : checkedAmount amount currency = .ok a) : ¬ a ≤ 0 := by
  have same := checkedAmount_same checked
  unfold checkedAmount Money.validateAmount at checked
  split at checked
  · cases checked
  · rename_i positive
    simp only [Bool.or_eq_true, not_or, Bool.not_eq_true] at positive
    rw [← same] at positive
    rw [Decimal.le_iff_value, Decimal.value_zero, not_le, Decimal.value_eq_magnitude, positive.1]
    have some : a.magnitude ≠ 0 := by simpa [Decimal.isZero] using positive.2
    have above : (0 : ℚ) < a.magnitude := by exact_mod_cast Nat.pos_of_ne_zero some
    simp only [Bool.false_eq_true, if_false, one_mul]
    exact div_pos above (pow_pos (by decide) _)

theorem checkedFee_same (checked : checkedFee fee currency = .ok f) : f.value = fee.value := by
  unfold checkedFee Money.validateFee at checked
  split at checked
  · rename_i free
    cases checked
    rw [Decimal.isZero_iff_value.mp free, Decimal.value_zero]
  · rw [checkedAmount_same checked]

theorem checkedFee_zero (checked : checkedFee fee currency = .ok f) (free : ¬ 0 < f) :
    f.isZero = true := by
  unfold checkedFee Money.validateFee at checked
  split at checked
  · cases checked
    rfl
  · exact absurd (Decimal.not_le_iff.mp (checkedAmount_positive checked)) free

namespace Draft.Placed

variable {d : Draft}

theorem kind (placed : d.Placed) : d.kind.isExternal = true := by cases placed <;> rfl

theorem platform (placed : d.Placed) : d.details.platform.isExternal = true := by
  cases placed <;> rfl

theorem fee (placed : d.Placed) (free : ¬ 0 < d.fee) : d.fee.isZero = true := by
  cases placed with
  | giftCard => rfl
  | payout _ _ _ fee => exact checkedFee_zero fee free
  | send _ _ _ fee => exact checkedFee_zero fee free

end Draft.Placed

def feeLegs (currency : Currency) (fee : Decimal) : List Leg :=
  if 0 < fee then [.counterparty .fees currency fee fee] else []

def depositLegs (source : String) (w : Wallet) (amount : Decimal) : List Leg :=
  [.counterparty (.external ("deposit:" ++ source)) w.currency (-amount) (-amount),
    .credit w amount amount]

def farLeg (currency : Currency) (amount : Decimal) (c : Credited) : FarEnd → Leg
  | .wallet w => .credit w c.amount amount
  | .account reference => .counterparty (.external reference) currency amount amount

def transferLegs (r : Transaction) (source : Wallet) (total amount fee : Decimal) (c : Credited)
    (farEnd : FarEnd) : List Leg :=
  .debit source total total :: farLeg r.currency amount c farEnd :: feeLegs r.currency fee

def payoutLegs (w : Wallet) (amount : Decimal) : List Leg :=
  [.counterparty .rewards w.currency (-amount) (-amount), .credit w amount amount]

def reservationLegs (r : Transaction) (w : Wallet) (provider : String) (total : Decimal) : List Leg :=
  .debit w total total ::
    .counterparty (External.providerAccount r.platform provider) r.currency r.amount r.amount ::
    feeLegs r.currency r.fee

def Transactions.FarEnd.Of (t : Tables) (c : Credited) : Destination → FarEnd → Prop
  | .wallet id, .wallet d => t.wallet? id = some d ∧ d.currency = c.currency
  | .external reference _, .account booked => booked = reference
  | _, _ => False

-- The transaction and the legs that a unit of work brings in at once. The wallets are the stored
-- rows of that moment.
inductive Opening (t : Tables) : Transaction → List Leg → Prop where
  | deposit {id : TransactionId} (request : DepositRequest)
      (stored : t.wallet? request.walletId = some w) (currency : w.currency = request.currency)
      (amount : checkedAmount request.amount request.currency = .ok a)
      (shape : r = { (depositDraft request a w).toTransaction id now with
        status := .succeeded, externalReference := some request.sourceReference }) :
      Opening t r (depositLegs request.sourceReference w a)
  | transfer {id : TransactionId} (request : TransferRequest) (c : Credited) (farEnd : FarEnd)
      (apart : request.destination ≠ .wallet request.sourceWalletId)
      (stored : t.wallet? request.sourceWalletId = some w) (currency : w.currency = request.currency)
      (far : FarEnd.Of t c request.destination farEnd)
      (amount : checkedAmount request.amount request.currency = .ok a)
      (fee : checkedFee request.fee request.currency = .ok f)
      (shape : r = { (transferDraft request a f c w).toTransaction id now with status := .succeeded })
      (sum : r.total = .ok total) (worth : c.Of request a) :
      Opening t r (transferLegs r w total a f c farEnd)
  | payout {id : TransactionId} (request : Withdrawal)
      (stored : t.wallet? request.walletId = some w)
      (shape : r = { (Rewards.payoutDraft request w).toTransaction id now with status := .succeeded }) :
      Opening t r (payoutLegs w request.amount)
  | reservation {id : TransactionId} (d : Draft) (placed : d.Placed) (provider : String)
      (stored : t.wallet? d.walletId = some w) (currency : w.currency = d.currency)
      (shape : r = d.toTransaction id now) (sum : r.total = .ok total) :
      Opening t r (reservationLegs r w provider total)

def Gauge.Gives (pick : Supply → α) (g g' : Gauge) (x : α) : Prop :=
  ∃ n, g.supply.issued ≤ n ∧ n < g'.supply.issued ∧ x = pick ⟨n⟩

theorem Gauge.Gives.mono {pick : Supply → α} (gives : Gauge.Gives pick g g' x) (before : g₀.Before g)
    (after : g'.Before g₁) : Gauge.Gives pick g₀ g₁ x := by
  obtain ⟨n, low, high, same⟩ := gives
  exact ⟨n, Nat.le_trans before low, Nat.lt_of_lt_of_le high after, same⟩

-- A transaction written down under a new identifier and a key that was free, and all that it
-- books.
structure Created (g : Gauge) (t : Tables) (g' : Gauge) (r : Transaction) (legs : List Leg)
    (t' : Tables) : Prop where
  issued : Gauge.Gives Supply.transaction g g' r.id
  free : ∀ key, r.idempotencyKey = some key → t.transactionOf? key = none
  opening : Opening t r legs
  books : Books r.id (t.withTransaction r) legs t'

theorem Created.mono (created : Created g t g' r legs t') (before : g₀.Before g)
    (after : g'.Before g₁) : Created g₀ t g₁ r legs t' :=
  { created with issued := created.issued.mono before after }

theorem Created.frame (created : Created g t g' r legs t') :
    t' = { t with
      wallets := t'.wallets, entries := t'.entries,
      transactions := Rows.put Transaction.id r t.transactions } := by
  rw [created.books.frame]
  rfl

theorem Created.keyed (created : Created g t g' r legs t') (keyed : r.idempotencyKey = some k) :
    t'.transactionOf? k = some r := by
  rw [created.frame]
  exact Tables.transactionOf?_withTransaction keyed (created.free k keyed)

theorem Created.stored (created : Created g t g' r legs t') : t'.transaction? r.id = some r := by
  rw [created.frame, Tables.transaction?]
  exact (Rows.find?_put r.id).trans (if_pos rfl)

end Treasury
