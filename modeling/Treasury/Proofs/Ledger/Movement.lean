import Treasury.Proofs.Service.Units

namespace Treasury

open Transactions
open Decimal (Fits Sums)

def amountsOn (id : WalletId) (lines : List Line) : List Decimal :=
  (lines.filter (·.account = .wallet id)).map (·.amount)

def net (id : WalletId) (lines : List Line) : ℚ := ((amountsOn id lines).map Decimal.value).sum

theorem net_append (id : WalletId) (first second : List Line) :
    net id (first ++ second) = net id first + net id second := by
  simp [net, amountsOn]

theorem amountsOn_cons (id : WalletId) (l : Line) (lines : List Line) :
    amountsOn id (l :: lines) =
      if l.account = .wallet id then l.amount :: amountsOn id lines else amountsOn id lines := by
  by_cases on : l.account = .wallet id <;> simp [amountsOn, on]

theorem Decimal.Sums.of_short {ds : List Decimal} (short : ds.length ≤ 1)
    (fits : Fits (q + (ds.map Decimal.value).sum)) : Sums q ds (q + (ds.map Decimal.value).sum) := by
  match ds, short with
  | [], _ =>
    rw [List.map_nil, List.sum_nil, add_zero]
    exact .nil
  | [d], _ =>
    rw [List.map_singleton, List.sum_singleton] at fits ⊢
    exact .cons fits .nil

namespace Tables

-- The balance of a wallet that is there before and after grows by `q`, to the last digit wherever
-- some decimal has the new amount.
def Gains (t : Tables) (id : WalletId) (q : ℚ) (t' : Tables) : Prop :=
  ∃ w w', t.wallet? id = some w ∧ t'.wallet? id = some w' ∧
    (Fits (w.balance.value + q) → w'.balance.value = w.balance.value + q)

end Tables

namespace Posts

variable {t t' : Tables} {leg : Leg} {number : TransactionId} {id : WalletId} {w : Wallet}

theorem wallet?_same (posts : Posts number t leg t') (on : leg.line.account = .wallet id)
    (stored : t.wallet? id = some w) :
    ∃ w', t'.wallet? id = some w' ∧ w.balance.add leg.line.amount = .ok w'.balance := by
  cases posts with
  | counterparty outside =>
    cases on
    cases outside
  | wallet m made there =>
    rw [made.line] at on ⊢
    cases on
    cases stored.symm.trans there
    refine ⟨_, Rows.find?_amend_same ?_ there, made.adds⟩
    intros
    rfl

end Posts

namespace Books

variable {t t' : Tables} {legs : List Leg} {number : TransactionId} {id : WalletId} {w : Wallet}

theorem wallet?_other (books : Books number t legs t')
    (other : ∀ leg ∈ legs, leg.line.account ≠ .wallet id) : t'.wallet? id = t.wallet? id := by
  induction books with
  | nil => rfl
  | cons posts _ ih =>
    rw [ih fun leg mem => other leg (List.mem_cons_of_mem _ mem)]
    exact posts.wallet?_other (other _ List.mem_cons_self)

theorem moves (books : Books number t legs t') (stored : t.wallet? id = some w) :
    ∃ w', t'.wallet? id = some w' ∧
      ∀ q, Sums w.balance.value (amountsOn id (legs.map Leg.line)) q → w'.balance.value = q := by
  induction books generalizing w with
  | nil =>
    refine ⟨w, stored, fun q sums => ?_⟩
    cases sums
    rfl
  | @cons t leg t' legs t'' posts rest ih =>
    rw [List.map_cons, amountsOn_cons]
    by_cases on : leg.line.account = .wallet id
    · obtain ⟨w', there, added⟩ := posts.wallet?_same on stored
      obtain ⟨w'', last, exact⟩ := ih there
      refine ⟨w'', last, fun q sums => ?_⟩
      rw [if_pos on] at sums
      cases sums with
      | cons fits sums =>
        refine exact q ?_
        rw [Decimal.add_value added fits]
        exact sums
    · rw [if_neg on]
      exact ih ((posts.wallet?_other on).trans stored)

theorem gains (books : Books number t legs t') (stored : t.wallet? id = some w)
    (once : (amountsOn id (legs.map Leg.line)).length ≤ 1) :
    t.Gains id (net id (legs.map Leg.line)) t' := by
  obtain ⟨w', last, exact⟩ := books.moves stored
  exact ⟨w, w', stored, last, fun fits => exact _ (.of_short once fits)⟩

end Books

section Once

variable {t : Tables} {r : Transaction} {legs : List Leg} {id : WalletId}

theorem amountsOn_fees (id : WalletId) (currency : Currency) (fee : Decimal) :
    amountsOn id ((feeLegs currency fee).map Leg.line) = [] := by
  unfold feeLegs
  split <;> simp [amountsOn, Leg.line]

theorem amountsOn_deposit (source : String) (w : Wallet) (amount : Decimal) :
    amountsOn id ((depositLegs source w amount).map Leg.line) = if w.id = id then [amount] else [] := by
  by_cases here : w.id = id <;> simp [amountsOn, depositLegs, Leg.line, here]

theorem amountsOn_payout (w : Wallet) (amount : Decimal) :
    amountsOn id ((payoutLegs w amount).map Leg.line) = if w.id = id then [amount] else [] := by
  by_cases here : w.id = id <;> simp [amountsOn, payoutLegs, Leg.line, here]

theorem amountsOn_transfer (r : Transaction) (w : Wallet) (total amount fee : Decimal) (c : Credited)
    (farEnd : FarEnd) : amountsOn id ((transferLegs r w total amount fee c farEnd).map Leg.line) =
      (if w.id = id then [-total] else []) ++ if farEnd.wallet? = some id then [c.amount] else [] := by
  unfold transferLegs
  rw [List.map_cons, List.map_cons, amountsOn_cons, amountsOn_cons, amountsOn_fees]
  cases farEnd with
  | account => by_cases here : w.id = id <;> simp [Leg.line, farLeg, FarEnd.wallet?, here]
  | wallet d =>
    by_cases here : w.id = id <;> by_cases there : d.id = id <;>
      simp [Leg.line, farLeg, FarEnd.wallet?, here, there]

theorem amountsOn_reservation (r : Transaction) (w : Wallet) (provider : String) (total : Decimal) :
    amountsOn id ((reservationLegs r w provider total).map Leg.line) =
      if w.id = id then [-total] else [] := by
  unfold reservationLegs
  rw [List.map_cons, List.map_cons, amountsOn_cons, amountsOn_cons, amountsOn_fees]
  by_cases here : w.id = id <;> simp [Leg.line, External.providerAccount, here]

theorem amountsOn_compensation (r : Transaction) (w : Wallet) (provider : String) (total : Decimal) :
    amountsOn id ((compensationLegs r w (External.providerAccount r.platform provider) total).map
      Leg.line) = if w.id = id then [total] else [] := by
  unfold compensationLegs External.providerAccount
  by_cases here : w.id = id <;> by_cases due : 0 < r.fee <;> simp [amountsOn, Leg.line, here, due]

theorem amountsOn_difference (r : Transaction) (w : Wallet) (provider : String)
    (found : External.Difference) : (amountsOn id ((differenceLegs r
      (External.providerAccount r.platform provider) w found).map Leg.line)).length ≤ 1 := by
  unfold External.providerAccount
  cases found <;> by_cases here : w.id = id <;> simp [amountsOn, differenceLegs, Leg.line, here]

theorem Transactions.FarEnd.Of.apart {c : Credited} {farEnd : FarEnd} {source : WalletId}
    (far : FarEnd.Of t c destination farEnd) (apart : destination ≠ .wallet source) :
    farEnd.wallet? ≠ some source := by
  cases farEnd with
  | account => exact nofun
  | wallet d =>
    obtain ⟨id, rfl, held⟩ := far.wallet
    have number : d.id = id := Rows.key_of_find? held
    rintro same
    have same : d.id = source := Option.some.inj same
    exact apart (by rw [← number, same])

theorem Opening.once (opening : Opening t r legs) (id : WalletId) :
    (amountsOn id (legs.map Leg.line)).length ≤ 1 := by
  cases opening with
  | deposit => rw [amountsOn_deposit]; split <;> simp
  | payout => rw [amountsOn_payout]; split <;> simp
  | reservation => rw [amountsOn_reservation]; split <;> simp
  | transfer request c farEnd apart stored _ far =>
    have number := Rows.key_of_find? stored
    have apart := far.apart apart
    rw [amountsOn_transfer, number]
    by_cases here : request.sourceWalletId = id
    · rw [if_pos here, if_neg (here ▸ apart)]
      simp
    · rw [if_neg here]
      split <;> simp

theorem Resolves.once (resolves : Resolves t r provider outcome legs noted) (id : WalletId) :
    (amountsOn id (legs.map Leg.line)).length ≤ 1 := by
  cases resolves with
  | accepted => exact Nat.zero_le 1
  | exact => exact Nat.zero_le 1
  | waiting => exact Nat.zero_le 1
  | adjusted => exact amountsOn_difference ..
  | compensated => rw [amountsOn_compensation]; split <;> simp

end Once
end Treasury
