import Treasury.Proofs.Decimal.Whole
import Treasury.Proofs.Reward.Payout
import Treasury.Proofs.World.Later

namespace Treasury

open Transactions

-- On a wallet this is an amount of whole minor units.
def Line.Whole (l : Line) : Prop := ∀ id, l.account = .wallet id → l.currency.Whole l.amount

def Transaction.Whole (r : Transaction) : Prop :=
  r.currency.Whole r.amount ∧ r.currency.Whole r.fee

theorem Transaction.Whole.due {r : Transaction} {w : Wallet} {sum : Decimal} (whole : r.Whole)
    (added : r.total = .ok sum) (currency : w.currency = r.currency) : w.currency.Whole sum := by
  rw [currency]
  exact Decimal.whole_add whole.1 whole.2 added

theorem ok_of_mapError {r : Except δ α} {f : δ → ε} (mapped : r.mapError f = .ok a) : r = .ok a := by
  cases r with
  | error e => cases mapped
  | ok b =>
    cases mapped
    rfl

theorem checkedAmount_whole (checked : checkedAmount amount currency = .ok a) : currency.Whole a :=
  Money.validateAmount_whole (ok_of_mapError checked)

theorem checkedFee_whole (checked : checkedFee fee currency = .ok f) : currency.Whole f :=
  Money.validateFee_whole (ok_of_mapError checked)

theorem Draft.Placed.whole {d : Draft} (placed : d.Placed) :
    d.currency.Whole d.amount ∧ d.currency.Whole d.fee := by
  cases placed with
  | giftCard request quote priced =>
    obtain ⟨exact, rounded⟩ := priced.rounded
    refine ⟨?_, Decimal.whole_zero⟩
    change quote.wallet.currency.Whole quote.amount
    rw [rounded]
    exact Currency.whole_round _ _
  | payout request w amount fee currency =>
    change w.currency.Whole _ ∧ w.currency.Whole _
    rw [currency]
    exact ⟨checkedAmount_whole amount, checkedFee_whole fee⟩
  | send request w amount fee currency =>
    change w.currency.Whole _ ∧ w.currency.Whole _
    rw [currency]
    exact ⟨checkedAmount_whole amount, checkedFee_whole fee⟩

theorem Transactions.Credited.Of.whole {r : TransferRequest} {c : Credited} (worth : c.Of r a)
    (amount : r.currency.Whole a) : c.currency.Whole c.amount := by
  rcases worth with ⟨currency, same⟩ | ⟨exact, rounded⟩
  · rw [currency, same]
    exact amount
  · rw [rounded]
    exact Currency.whole_round _ _

theorem Line.whole_outside {l : Line} (outside : l.account.walletId? = none) : l.Whole := by
  intro id on
  rw [on] at outside
  cases outside

section Legs

variable {w : Wallet} {r : Transaction} {total : Decimal}

theorem feeLegs_whole (currency : Currency) (fee : Decimal) :
    ∀ leg ∈ feeLegs currency fee, leg.line.Whole := by
  unfold feeLegs
  split
  · rw [List.forall_mem_singleton]
    exact Line.whole_outside rfl
  · exact List.forall_mem_nil _

theorem depositLegs_whole (amount : w.currency.Whole a) (source : String) :
    ∀ leg ∈ depositLegs source w a, leg.line.Whole := by
  rw [depositLegs, List.forall_mem_cons, List.forall_mem_singleton]
  exact ⟨Line.whole_outside rfl, fun _ _ => amount⟩

theorem transferLegs_whole {c : Credited} {farEnd : FarEnd} (paid : w.currency.Whole total)
    (landed : ∀ d, farEnd = .wallet d → d.currency.Whole c.amount) :
    ∀ leg ∈ transferLegs r w total a f c farEnd, leg.line.Whole := by
  rw [transferLegs, List.forall_mem_cons, List.forall_mem_cons]
  refine ⟨fun _ _ => paid.neg, ?_, feeLegs_whole _ _⟩
  cases farEnd with
  | wallet d => exact fun _ _ => landed d rfl
  | account => exact Line.whole_outside rfl

theorem reservationLegs_whole (paid : w.currency.Whole total) (provider : String) :
    ∀ leg ∈ reservationLegs r w provider total, leg.line.Whole := by
  rw [reservationLegs, List.forall_mem_cons, List.forall_mem_cons]
  exact ⟨fun _ _ => paid.neg, Line.whole_outside rfl, feeLegs_whole _ _⟩

theorem compensationLegs_whole {account : Account} (outside : account.walletId? = none)
    (paid : w.currency.Whole total) : ∀ leg ∈ compensationLegs r w account total, leg.line.Whole := by
  rw [compensationLegs, List.forall_mem_cons, List.forall_mem_cons]
  refine ⟨fun _ _ => paid, Line.whole_outside outside, ?_⟩
  split
  · rw [List.forall_mem_singleton]
    exact Line.whole_outside rfl
  · exact List.forall_mem_nil _

theorem differenceLegs_whole {account : Account} {difference : Decimal}
    (outside : account.walletId? = none) (whole : w.currency.Whole difference) :
    ∀ leg ∈ differenceLegs r account w (.of difference w), leg.line.Whole := by
  unfold External.Difference.of
  split
  · rw [differenceLegs, List.forall_mem_cons, List.forall_mem_singleton]
    exact ⟨fun _ _ => whole.neg, Line.whole_outside outside⟩
  · split
    · rw [differenceLegs, List.forall_mem_cons, List.forall_mem_singleton]
      exact ⟨fun _ _ => whole.neg, Line.whole_outside outside⟩
    · exact List.forall_mem_nil _

end Legs

theorem Opening.waits_whole {r : Transaction} (opening : Opening t r legs)
    (waits : r.status ≠ .succeeded) : r.Whole := by
  cases opening with
  | deposit _ _ _ _ shape => exact absurd (by rw [shape]) waits
  | transfer _ _ _ _ _ _ _ _ _ shape => exact absurd (by rw [shape]) waits
  | payout _ _ shape => exact absurd (by rw [shape]) waits
  | reservation d placed _ _ _ shape =>
    rw [shape]
    exact placed.whole

-- Payouts apart, what a new transaction books on wallets is whole.
theorem Opening.whole {r : Transaction} (opening : Opening t r legs) :
    (∀ leg ∈ legs, leg.line.Whole) ∨ ∃ w a, legs = payoutLegs w a := by
  cases opening with
  | deposit request stored currency amount =>
    refine .inl (depositLegs_whole ?_ _)
    rw [currency]
    exact checkedAmount_whole amount
  | transfer request c farEnd apart stored currency far amount fee shape sum worth =>
    have checked := checkedAmount_whole amount
    have charged := checkedFee_whole fee
    refine .inl (transferLegs_whole ?_ ?_)
    · have whole : r.Whole := by
        rw [← currency] at checked charged
        rw [shape]
        exact ⟨checked, charged⟩
      exact whole.due sum (by rw [shape]; rfl)
    · intro d lands
      cases destination : request.destination with
      | wallet =>
        rw [destination, lands] at far
        rw [far.2]
        exact worth.whole checked
      | external =>
        rw [destination, lands] at far
        exact far.elim
  | payout => exact .inr ⟨_, _, rfl⟩
  | reservation d placed provider stored currency shape sum =>
    refine .inl (reservationLegs_whole ?_ _)
    refine Transaction.Whole.due ?_ sum (by rw [shape]; exact currency)
    rw [shape]
    exact placed.whole

-- A provider's price is rounded before anything is made of it.
theorem Resolves.whole {r : Transaction} (resolves : Resolves t r provider outcome legs noted)
    (whole : r.Whole) (held : t.HeldIn r.walletId r.currency) : ∀ leg ∈ legs, leg.line.Whole := by
  cases resolves with
  | accepted => exact List.forall_mem_nil _
  | exact => exact List.forall_mem_nil _
  | waiting => exact List.forall_mem_nil _
  | compensated stored sum =>
    exact compensationLegs_whole rfl (whole.due sum ((Tables.heldIn_iff stored).mp held))
  | @adjusted settled price difference w _ actual taken something stored =>
    have rounded : r.currency.Whole price := by
      unfold External.actualAmount at actual
      cases product : settled.mul (r.exchangeRate.getD 1) with
      | error e =>
        rw [product] at actual
        cases actual
      | ok exact =>
        rw [product] at actual
        cases actual
        exact Currency.whole_round _ _
    refine differenceLegs_whole rfl ?_
    rw [(Tables.heldIn_iff stored).mp held]
    exact Decimal.whole_sub rounded whole.1 taken

theorem Posts.held {id : WalletId} (posts : Posts number t leg t') (on : leg.line.account = .wallet id) :
    t.HeldIn id leg.line.currency := by
  cases posts with
  | wallet m made stored =>
    rw [made.line] at on ⊢
    cases on
    exact (Tables.heldIn_iff stored).mpr rfl
  | counterparty outside =>
    cases on
    cases outside

theorem Books.held {id : WalletId} (books : Books number t legs t') (mem : leg ∈ legs)
    (on : leg.line.account = .wallet id) : t.HeldIn id leg.line.currency := by
  induction books with
  | nil => cases mem
  | cons posts _ ih =>
    cases mem with
    | head => exact posts.held on
    | tail _ mem => exact (Tables.heldIn_of_faces posts.faces).mp (ih mem)

theorem Books.told (books : Books number t legs t') (mem : e ∈ t'.entries) :
    e ∈ t.entries ∨ ∃ leg ∈ legs, leg.line = e.line := by
  obtain ⟨es, appended, _, same⟩ := books.entries
  rw [appended] at mem
  refine (List.mem_append.mp mem).imp id fun new => ?_
  have line : e.line ∈ legs.map Leg.line := by
    rw [← same]
    exact List.mem_map_of_mem new
  exact List.mem_map.mp line

theorem Books.held_entries (books : Books number t legs t') :
    ∀ e ∈ t'.entries, e ∈ t.entries ∨ ∀ id, e.account = .wallet id → t'.HeldIn id e.currency := by
  intro e mem
  refine (books.told mem).imp id fun new id on => (Tables.heldIn_of_faces books.faces).mpr ?_
  obtain ⟨leg, there, line⟩ := new
  have currency : leg.line.currency = e.currency := by rw [line]; rfl
  rw [← currency]
  exact books.held there (by rw [line]; exact on)

namespace Tables

-- What a referral payout paid in: the same transaction took as much from the rewards account.
def Rewarded (t : Tables) (e : Entry) : Prop :=
  ∃ p ∈ t.entries, p.transactionId = e.transactionId ∧ p.account = .rewards ∧ p.amount = -e.amount

instance (t : Tables) (e : Entry) : Decidable (t.Rewarded e) :=
  inferInstanceAs (Decidable (∃ p ∈ t.entries, _))

-- What is still to be settled is whole, and every entry on a wallet is in its currency, and whole
-- unless it was paid from the rewards account.
structure Whole (t : Tables) : Prop where
  waiting : ∀ id r, t.transaction? id = some r → r.status ≠ .succeeded →
    r.Whole ∧ t.HeldIn r.walletId r.currency
  held : ∀ e ∈ t.entries, ∀ id, e.account = .wallet id → t.HeldIn id e.currency
  entries : ∀ e ∈ t.entries, e.line.Whole ∨ t.Rewarded e

variable {t t' : Tables} {g g' : Gauge}

theorem Rewarded.mono (rewarded : t.Rewarded e) (kept : ∀ e ∈ t.entries, e ∈ t'.entries) :
    t'.Rewarded e := by
  obtain ⟨p, mem, same⟩ := rewarded
  exact ⟨p, kept p mem, same⟩

theorem rewarded_payout {es : List Entry}
    (lines : es.map Entry.line = (payoutLegs w a).map Leg.line)
    (mine : ∀ e ∈ es, e.transactionId = number) (there : ∀ e ∈ es, e ∈ t.entries) :
    ∀ e ∈ es, e.line.Whole ∨ t.Rewarded e := by
  obtain ⟨p, rest, rfl, taken, lines⟩ := List.map_eq_cons_iff.mp lines
  obtain ⟨q, rest, rfl, given, lines⟩ := List.map_eq_cons_iff.mp lines
  cases List.map_eq_nil_iff.mp lines
  have account : p.account = .rewards := congrArg Line.account taken
  have opposite : p.amount = -q.amount := by
    have left : p.amount = -a := congrArg Line.amount taken
    have right : q.amount = a := congrArg Line.amount given
    rw [left, right]
  have same : p.transactionId = q.transactionId :=
    (mine p List.mem_cons_self).trans (mine q (by simp)).symm
  rw [List.forall_mem_cons, List.forall_mem_singleton]
  constructor
  · refine .inl (Line.whole_outside ?_)
    rw [taken]
    rfl
  · exact .inr ⟨p, there p List.mem_cons_self, same, account, opposite⟩

-- Every entry is an old one, or whole, or the credit of a payout.
theorem whole_entries (books : Books number t legs t')
    (lines : (∀ leg ∈ legs, leg.line.Whole) ∨ ∃ w a, legs = payoutLegs w a) :
    ∀ e ∈ t'.entries, e ∈ t.entries ∨ e.line.Whole ∨ t'.Rewarded e := by
  intro e mem
  rcases lines with parts | ⟨w, a, payout⟩
  · refine (books.told mem).imp id fun new => ?_
    obtain ⟨leg, there, line⟩ := new
    rw [← line]
    exact .inl (parts leg there)
  · obtain ⟨es, appended, mine, same⟩ := books.entries
    rw [payout] at same
    rw [appended] at mem
    refine (List.mem_append.mp mem).imp id fun new => rewarded_payout same mine (fun e mem => ?_) e new
    rw [appended]
    exact List.mem_append_right _ mem

namespace Whole

theorem empty : Tables.empty.Whole := by
  constructor
  · intro _ _ stored
    cases stored
  · intro _ mem
    cases mem
  · intro _ mem
    cases mem

theorem of_same (whole : t.Whole) (held : ∀ id currency, t.HeldIn id currency → t'.HeldIn id currency)
    (entries : t'.entries = t.entries)
    (waiting : ∀ id r, t'.transaction? id = some r → r.status ≠ .succeeded →
      r.Whole ∧ t.HeldIn r.walletId r.currency) : t'.Whole := by
  refine ⟨fun id r stored waits => ?_, ?_, ?_⟩
  · obtain ⟨parts, there⟩ := waiting id r stored waits
    exact ⟨parts, held _ _ there⟩
  · rw [entries]
    exact fun e mem id on => held _ _ (whole.held e mem id on)
  · rw [entries]
    intro e mem
    refine (whole.entries e mem).imp id fun rewarded => rewarded.mono ?_
    rw [entries]
    exact fun _ => id

theorem same_books (whole : t.Whole) (books : t.SameBooks t') : t'.Whole := by
  refine whole.of_same (fun _ _ => (heldIn_of_faces (by rw [books.wallets])).mpr) books.entries ?_
  intro id r stored
  rw [Tables.transaction?, books.transactions] at stored
  exact whole.waiting id r stored

theorem noted (whole : t.Whole)
    (parts : r.status ≠ .succeeded → r.Whole ∧ t.HeldIn r.walletId r.currency) :
    (t.withTransaction r).Whole := by
  refine whole.of_same (fun _ _ => id) rfl fun id x stored waits => ?_
  rw [Tables.transaction?, withTransaction, Rows.find?_put] at stored
  split at stored
  · cases stored
    exact parts waits
  · exact whole.waiting id x stored waits

theorem amended (whole : t.Whole) {change : Transaction → Transaction}
    (keeps : ∀ r, (change r).id = r.id ∧ (change r).walletId = r.walletId ∧
      (change r).currency = r.currency ∧ (change r).amount = r.amount ∧ (change r).fee = r.fee)
    (unsettled : ∀ r, t.transaction? number = some r → (change r).status ≠ .succeeded →
      r.status ≠ .succeeded) (moment : Instant) : (t.withChanged number change moment).Whole := by
  refine whole.of_same (fun _ _ => id) rfl fun id x stored waits => ?_
  rcases transaction?_changed (fun r => (keeps r).1) stored with ⟨_, old, found, rfl⟩ | ⟨_, kept⟩
  · obtain ⟨parts, held⟩ := whole.waiting _ old found (unsettled old found waits)
    obtain ⟨_, wallet, currency, amount, fee⟩ := keeps old
    refine ⟨?_, ?_⟩
    · change (change old).currency.Whole (change old).amount ∧ (change old).currency.Whole (change old).fee
      rw [currency, amount, fee]
      exact parts
    · change t.HeldIn (change old).walletId (change old).currency
      rw [wallet, currency]
      exact held
  · exact whole.waiting id x kept waits

theorem booked (whole : t.Whole) (books : Books number t legs t')
    (lines : (∀ leg ∈ legs, leg.line.Whole) ∨ ∃ w a, legs = payoutLegs w a) : t'.Whole := by
  have held {id : WalletId} {currency : Currency} : t'.HeldIn id currency ↔ t.HeldIn id currency :=
    heldIn_of_faces books.faces
  refine ⟨fun id r stored waits => ?_, fun e mem id on => ?_, fun e mem => ?_⟩
  · rw [Tables.transaction?, books.transactions] at stored
    obtain ⟨parts, there⟩ := whole.waiting id r stored waits
    exact ⟨parts, held.mpr there⟩
  · rcases books.held_entries e mem with old | new
    · exact held.mpr (whole.held e old id on)
    · exact new id on
  · rcases whole_entries books lines e mem with old | new
    · obtain ⟨es, appended, _⟩ := books.entries
      refine (whole.entries e old).imp id fun rewarded => rewarded.mono ?_
      rw [appended]
      exact fun e mem => List.mem_append_left es mem
    · exact new

theorem created (whole : t.Whole) (created : Created g t g' r legs t') : t'.Whole := by
  refine (whole.noted fun waits => ?_).booked created.books created.opening.whole
  exact ⟨created.opening.waits_whole waits, created.opening.held⟩

theorem settles (whole : t.Whole) (settles : Settles c t answer (some t')) : t'.Whole := by
  cases settles with
  | touched stored current =>
    exact whole.amended (by intro; exact ⟨rfl, rfl, rfl, rfl, rfl⟩) (fun _ _ => id) _
  | decided stored current moves resolves books =>
    have unsettled : c.expected ≠ .succeeded := by
      intro final
      rw [final] at moves
      cases moves
    have waits := current ▸ unsettled
    obtain ⟨parts, held⟩ := whole.waiting _ _ stored waits
    refine (whole.booked books (.inl (resolves.whole parts held))).amended
      (by intro; exact ⟨rfl, rfl, rfl, rfl, rfl⟩) (fun x found _ => ?_) _
    rw [Tables.transaction?, books.transactions] at found
    cases found.symm.trans stored
    exact waits

theorem step (whole : t.Whole) (step : Step g t g' t') : t'.Whole := by
  cases step with
  | settle c settles => exact whole.settles settles
  | change change =>
    have held {id : WalletId} {currency : Currency} : t.HeldIn id currency → t'.HeldIn id currency :=
      heldIn_step change.books
    cases change.books with
    | same books => exact whole.same_books books
    | opened => exact whole.of_same (fun _ _ => held) rfl whole.waiting
    | restated => exact whole.of_same (fun _ _ => held) rfl whole.waiting
    | created before created after =>
      exact ((whole.same_books before).created created).same_books after
    | touched =>
      exact whole.amended (by intro; exact ⟨rfl, rfl, rfl, rfl, rfl⟩) (fun _ _ => id) _

end Whole
end Tables

theorem Running.whole {c : Currency} (running : Running b es last) (before : c.Whole b)
    (amounts : ∀ e ∈ es, c.Whole e.amount) : c.Whole last := by
  induction running with
  | nil => exact before
  | cons sum _ _ _ ih =>
    rw [List.forall_mem_cons] at amounts
    exact ih (Decimal.whole_add before amounts.1 sum) amounts.2

namespace World

theorem run_tables_whole (events : List Event) : (run events).server.tables.Whole :=
  Sound.start.induct (I := fun _ t => t.Whole) (fun _ _ _ _ _ step whole => whole.step step)
    .empty events

-- In every state of every run, each entry on a wallet that no referral payout left is in whole
-- minor units, and so is the balance as long as all payouts to the wallet were.
theorem run_whole (events : List Event) (w : Wallet)
    (stored : w ∈ (run events).server.tables.wallets) :
    (∀ e ∈ (run events).server.tables.walletEntries w.id,
      ¬ (run events).server.tables.Rewarded e → w.currency.Whole e.amount) ∧
    ((∀ e ∈ (run events).server.tables.walletEntries w.id,
      (run events).server.tables.Rewarded e → w.currency.Whole e.amount) →
      w.currency.Whole w.balance) := by
  have whole := run_tables_whole events
  have balanced := run_balanced events
  have unpaid : ∀ e ∈ (run events).server.tables.walletEntries w.id,
      ¬ (run events).server.tables.Rewarded e → w.currency.Whole e.amount := by
    intro e mem plain
    obtain ⟨there, on⟩ := List.mem_filter.mp mem
    have on : e.account = .wallet w.id := by simpa using on
    have currency := (Tables.heldIn_iff (balanced.found stored)).mp (whole.held e there w.id on)
    rw [currency]
    exact (whole.entries e there).resolve_right plain w.id on
  refine ⟨unpaid, fun paid => (balanced.running w stored).whole Decimal.whole_zero fun e mem => ?_⟩
  by_cases rewarded : (run events).server.tables.Rewarded e
  · exact paid e mem rewarded
  · exact unpaid e mem rewarded

-- A whole payout leaves the wallet whole.
theorem run_whole_paid : ∃ w, (run withdrawalEvents).server.tables.wallets = [w] ∧
    w.balance.isZero = false ∧ w.currency.Whole w.balance :=
  ⟨_, rfl, by decide +kernel,
    (run_whole withdrawalEvents _ (List.mem_singleton.mpr rfl)).2 (by decide +kernel)⟩

-- Neither a bonus nor a request to withdraw it is held to minor units: one of 10000.005 is paid out
-- to the last digit.
def dustEvents : List Event :=
  let bonus : Decimal := ⟨false, 10000005, 3, by decide, by decide⟩
  [.begin (.openWallet 7 .ngn .personal), .advance 0,
    .begin (.trackReferral 7 8 bonus), .advance 1,
    .begin (.requestWithdrawal .standard 7 bonus), .advance 2,
    .begin (.updateWithdrawal (Supply.withdrawal ⟨2⟩) .completed), .advance 3]

theorem run_dust : ¬ ∀ (events : List Event) (w : Wallet),
    w ∈ (run events).server.tables.wallets →
    (∃ total, Decimal.Sums 0 (((run events).server.tables.walletEntries w.id).map (·.amount)) total) →
    w.currency.Whole w.balance ∧
      ∀ e ∈ (run events).server.tables.walletEntries w.id, w.currency.Whole e.amount := by
  intro whole
  obtain ⟨w, a, rows, amounts, dust⟩ : ∃ w a, (run dustEvents).server.tables.wallets = [w] ∧
      ((run dustEvents).server.tables.walletEntries w.id).map (·.amount) = [a] ∧
      ¬ w.currency.Whole w.balance := ⟨_, _, rfl, rfl, by decide +kernel⟩
  refine dust (whole dustEvents w (by rw [rows]; exact List.mem_singleton_self w) ?_).1
  rw [amounts]
  exact ⟨a.value, .single a⟩

end World
end Treasury
