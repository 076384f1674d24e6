import Treasury.Service.Wallets
import Treasury.Proofs.Service.Lawful

namespace Treasury

theorem Gauge.Gives.next {pick : Supply → α} {g g' : Gauge} (later : g.supply.next.issued ≤ g'.supply.issued) :
    Gauge.Gives pick g g' (pick g.supply) :=
  ⟨g.supply.issued, Nat.le_refl _, later, rfl⟩

theorem Transactions.checkCurrency_ok (same : checkCurrency w currency = .ok u) :
    w.currency = currency := by
  unfold checkCurrency at same
  split at same
  · assumption
  · cases same

theorem Transactions.checkCurrency_error (other : checkCurrency w currency = .error e) :
    w.currency ≠ currency := by
  intro same
  rw [checkCurrency, if_pos same] at other
  cases other

theorem Transactions.FarEnd.Of.wallet (far : FarEnd.Of t c destination (.wallet d)) :
    ∃ id, destination = .wallet id ∧ t.wallet? id = some d := by
  cases destination with
  | wallet id => exact ⟨id, rfl, far.1⟩
  | external => exact far.elim

-- What an idempotency key stands for: one kind of operation on one wallet.
structure Purpose where
  kind : TransactionKind
  wallet : WalletId
deriving DecidableEq

def Transaction.purpose (r : Transaction) : Purpose := ⟨r.kind, r.walletId⟩

def Draft.purpose (d : Draft) : Purpose := ⟨d.kind, d.walletId⟩

theorem Transaction.purpose_eq {r : Transaction} {kind : TransactionKind} {wallet : WalletId} :
    r.purpose = ⟨kind, wallet⟩ ↔ r.kind = kind ∧ r.walletId = wallet := by
  simp [purpose]

theorem Transaction.purpose_ne {r : Transaction} {kind : TransactionKind} {wallet : WalletId} :
    r.purpose ≠ ⟨kind, wallet⟩ ↔ r.kind ≠ kind ∨ r.walletId ≠ wallet := by
  rw [Ne, purpose_eq]
  tauto

namespace Transactions

-- The answer of a unit that honours a key: the record that carries it for the same purpose, or a
-- new record under a key that nobody had.
inductive Answers (key : Option String) (p : Purpose) (g : Gauge) (t : Tables) :
    Transaction → Gauge → Option Tables → Prop where
  | replayed (keyed : key = some k) (stored : t.transactionOf? k = some r) (alike : r.purpose = p) :
      Answers key p g t r g' none
  | created (created : Created g t g' r legs t') (keyed : r.idempotencyKey = key)
      (alike : r.purpose = p) : Answers key p g t r g' (some t')

-- The same of a unit that is known to open only what `opens` tells: the new record and its legs.
inductive Honours (key : Option String) (p : Purpose)
    (opens : Tables → Transaction → List Leg → Prop) (g : Gauge) (t : Tables) :
    Transaction → Gauge → Option Tables → Prop where
  | replayed (keyed : key = some k) (stored : t.transactionOf? k = some r) (alike : r.purpose = p) :
      Honours key p opens g t r g' none
  | created (created : Created g t g' r legs t') (keyed : r.idempotencyKey = key)
      (alike : r.purpose = p) (opened : opens t r legs) : Honours key p opens g t r g' (some t')

theorem Honours.answers (honours : Honours key p opens g t r g' published) :
    Answers key p g t r g' published := by
  cases honours with
  | replayed keyed stored alike => exact .replayed keyed stored alike
  | created created keyed alike => exact .created created keyed alike

theorem Honours.before (honours : Honours key p opens g t r g' published) (before : g₀.Before g) :
    Honours key p opens g₀ t r g' published := by
  cases honours with
  | replayed keyed stored alike => exact .replayed keyed stored alike
  | created created keyed alike opened =>
    exact .created (created.mono before (.refl g')) keyed alike opened

-- The record of a deposit and its legs, over the wallet as it is stored.
inductive Deposits (request : DepositRequest) (a : Decimal) (t : Tables) :
    Transaction → List Leg → Prop where
  | deposits {id : TransactionId} (stored : t.wallet? request.walletId = some w)
      (currency : w.currency = request.currency)
      (shape : r = { (depositDraft request a w).toTransaction id now with
        status := .succeeded, externalReference := some request.sourceReference }) :
      Deposits request a t r (depositLegs request.sourceReference w a)

inductive Transfers (request : TransferRequest) (a f : Decimal) (c : Credited) (t : Tables) :
    Transaction → List Leg → Prop where
  | transfers {id : TransactionId} (farEnd : FarEnd)
      (stored : t.wallet? request.sourceWalletId = some w) (currency : w.currency = request.currency)
      (far : FarEnd.Of t c request.destination farEnd)
      (shape : r = { (transferDraft request a f c w).toTransaction id now with status := .succeeded })
      (sum : r.total = .ok total) : Transfers request a f c t r (transferLegs r w total a f c farEnd)

-- What stands in the way of a transfer whose key is free. No debit that is made overdraws, and only
-- what was negative before stays short.
inductive Stopped (request : TransferRequest) (a f : Decimal) (c : Credited) (t : Tables) : Prop where
  | missing {id : WalletId} (mine : id = request.sourceWalletId ∨ request.destination = .wallet id)
      (unknown : t.wallet? id = none)
  | foreign {id : WalletId} (sent : request.destination = .wallet id) (stored : t.wallet? id = some d)
      (other : d.currency ≠ c.currency)
  | mismatched (stored : t.wallet? request.sourceWalletId = some w)
      (other : w.currency ≠ request.currency)
  | uncounted (sum : a.add f = .error operation)
  | undebited (stored : t.wallet? request.sourceWalletId = some w) (sum : a.add f = .ok total)
      (why : Ledger.Movement.debit w total total = .error h)
  | overdrawn (stored : t.wallet? request.sourceWalletId = some w) (sum : a.add f = .ok total)
      (made : Ledger.Movement.debit w total total = .ok m) (below : m.balance < 0)
  | uncredited {id : WalletId} (sent : request.destination = .wallet id) (stored : t.wallet? id = some d)
      (why : Ledger.Movement.credit d c.amount a = .error h)
  | short {id : WalletId} (sent : request.destination = .wallet id) (stored : t.wallet? id = some d)
      (made : Ledger.Movement.credit d c.amount a = .ok m) (below : m.balance < 0)

inductive TransferRefused (request : TransferRequest) (a f : Decimal) (c : Credited) (t : Tables) :
    Halt TransactionError → Prop where
  | conflict (keyed : request.idempotencyKey = some k) (stored : t.transactionOf? k = some r)
      (other : r.purpose ≠ ⟨.transfer, request.sourceWalletId⟩) :
      TransferRefused request a f c t (.refused (.idempotencyConflict k))
  | stopped (fresh : ∀ k, request.idempotencyKey = some k → t.transactionOf? k = none)
      (stopped : Stopped request a f c t) : TransferRefused request a f c t h

-- While the key is held, nothing but a conflict over it is refused.
def Conflicts (key : Option String) (p : Purpose) (t : Tables) (h : Halt TransactionError) : Prop :=
  ∀ k r, key = some k → t.transactionOf? k = some r →
    r.purpose ≠ p ∧ h = .refused (.idempotencyConflict k)

theorem Conflicts.fresh (fresh : ∀ k, key = some k → t.transactionOf? k = none) :
    Conflicts key p t h := by
  intro k r keyed stored
  rw [fresh k keyed] at stored
  cases stored

theorem Conflicts.held (keyed : key = some k) (stored : t.transactionOf? k = some r)
    (other : r.purpose ≠ p) : Conflicts key p t (.refused (.idempotencyConflict k)) := by
  intro k' r' keyed' stored'
  cases keyed.symm.trans keyed'
  cases stored.symm.trans stored'
  exact ⟨other, rfl⟩

theorem Answers.within (answers : Answers key p g t a g' published)
    (own : p.kind ≠ .referralPayout) : Within (fun _ => True) g t a g' published := by
  cases answers with
  | replayed => exact .kept trivial
  | created created keyed alike =>
    refine .published trivial (.created created ?_)
    rw [← alike] at own
    exact own

end Transactions

namespace Work.Stages

open Transactions

variable {E : Halt TransactionError → Prop} {g : Gauge} {t : Tables}
  {tell : StoreError → TransactionError}

theorem replay {Q : Option Transaction → Gauge → Tables → Prop}
    (fresh : (∀ k, key = some k → t.transactionOf? k = none) → Q none g t)
    (known : ∀ k r, key = some k → t.transactionOf? k = some r → r.kind = kind →
      r.walletId = wallet → Q (some r) g t)
    (conflict : ∀ k r, key = some k → t.transactionOf? k = some r →
      r.kind ≠ kind ∨ r.walletId ≠ wallet → E (.refused (.idempotencyConflict k))) :
    (Transactions.replay key kind wallet).Stages E g t Q := by
  cases key with
  | none => exact pure (fresh (by rintro _ ⟨⟩))
  | some k =>
    refine bind (told (read ?_))
    cases stored : t.transactionOf? k with
    | none =>
      refine pure (fresh ?_)
      rintro _ ⟨⟩
      exact stored
    | some r =>
      dsimp only
      split
      · rename_i other
        exact refuse (conflict k r rfl stored other)
      · rename_i same
        simp only [not_or, not_not] at same
        exact bind (report (pure (known k r rfl stored same.1 same.2)))

theorem replayIn {Q : Option Transaction → Gauge → Tables → Prop}
    (fresh : (∀ k, d.idempotencyKey = some k → t.transactionOf? k = none) → Q none g t)
    (known : ∀ k r, d.idempotencyKey = some k → t.transactionOf? k = some r → r.kind = d.kind →
      r.walletId = d.walletId → Q (some r) g t)
    (conflict : ∀ k r, d.idempotencyKey = some k → t.transactionOf? k = some r →
      r.kind ≠ d.kind ∨ r.walletId ≠ d.walletId → E (.refused (.idempotencyConflict k))) :
    (External.replayIn d tell).Stages E g t Q := by
  unfold External.replayIn
  cases keyed : d.idempotencyKey with
  | none => exact pure (fresh (by simp [keyed]))
  | some k =>
    refine bind (told (read ?_))
    cases stored : t.transactionOf? k with
    | none =>
      refine pure (fresh fun k' same => ?_)
      cases keyed.symm.trans same
      exact stored
    | some r =>
      dsimp only
      split
      · rename_i other
        exact refuse (conflict k r keyed stored other)
      · rename_i same
        simp only [not_or, not_not] at same
        exact pure (known k r keyed stored same.1 same.2)

theorem lockWallet {id : WalletId} {Q : Wallet → Gauge → Tables → Prop}
    (there : ∀ w, t.wallet? id = some w → Q w g t)
    (missing : t.wallet? id = none → E (.refused (.walletNotFound id))) :
    (Transactions.lockWallet id).Stages E g t Q := bind (told (read (found there missing)))

-- The order of the two locks shows only in which missing wallet is reported.
theorem lockPair {a b : WalletId} {Q : Wallet × Wallet → Gauge → Tables → Prop}
    (there : ∀ v w, t.wallet? a = some v → t.wallet? b = some w → Q (v, w) g t)
    (missing : ∀ id, id = a ∨ id = b → t.wallet? id = none → E (.refused (.walletNotFound id))) :
    (Transactions.lockPair a b).Stages E g t Q := by
  unfold Transactions.lockPair
  split
  · refine bind (lockWallet (fun v first => ?_) (missing a (.inl rfl)))
    exact bind (lockWallet (fun w second => pure (there v w first second)) (missing b (.inr rfl)))
  · refine bind (lockWallet (fun w second => ?_) (missing b (.inr rfl)))
    exact bind (lockWallet (fun v first => pure (there v w first second)) (missing a (.inl rfl)))

theorem stamp {E : Halt ε → Prop} {Q : Transaction → Gauge → Tables → Prop}
    (post : Q (d.toTransaction g.supply.transaction g.clock) ⟨g.supply.next, g.clock.next⟩ t) :
    (Transactions.stamp d).Stages E g t Q := bind (now (bind (issue (pure post))))

theorem insert {Q : Unit → Gauge → Tables → Prop}
    (free : (∀ k, r.idempotencyKey = some k → t.transactionOf? k = none) →
      Q () g (t.withTransaction r))
    (taken : ∀ h, (∃ k, r.idempotencyKey = some k ∧ t.transactionOf? k ≠ none) → E h) :
    (Transactions.insert tell r).Stages E g t Q :=
  told (insertTransaction free fun k keyed held => taken _ ⟨k, keyed, held⟩)

theorem lockEnds {Q : Wallet × FarEnd → Gauge → Tables → Prop}
    (there : ∀ w farEnd, t.wallet? r.sourceWalletId = some w → FarEnd.Of t c r.destination farEnd →
      Q (w, farEnd) g t)
    (missing : ∀ id, id = r.sourceWalletId ∨ r.destination = .wallet id → t.wallet? id = none →
      E (.refused (.walletNotFound id)))
    (mismatch : ∀ id d e, r.destination = .wallet id → t.wallet? id = some d →
      checkCurrency d c.currency = .error e → E (.refused e)) :
    (Transactions.lockEnds r c).Stages E g t Q := by
  unfold Transactions.lockEnds
  cases place : r.destination with
  | external reference institution =>
    rw [place] at there
    exact bind (lockWallet (fun w stored => pure (there w _ stored rfl)) (missing _ (.inl rfl)))
  | wallet id =>
    rw [place] at there missing mismatch
    refine bind (lockPair (fun w d source far => ?_) fun id' either => missing id' ?_)
    · refine bind (checked (fun _ same => ?_) fun e => mismatch id d e rfl far)
      exact pure (there w _ source ⟨far, checkCurrency_ok same⟩)
    · exact either.imp_right fun same => congrArg Destination.wallet same.symm

theorem bookFarEnd {E : Halt PostingError → Prop} {Q : Unit → Gauge → Tables → Prop}
    (held : ∀ w, farEnd = .wallet w → t.wallet? w.id = some w)
    (post : ∀ g' t', g.Before g' → Posts r.id t (farLeg r.currency amount c farEnd) t' → Q () g' t')
    (refused : ∀ w, farEnd = .wallet w → ∀ h,
      Ledger.Movement.credit w c.amount amount = .error h → E h)
    (short : ∀ w, farEnd = .wallet w → ∀ m, Leg.Makes (.credit w c.amount amount) m →
      m.balance < 0 → E (.refused (.store (.checkViolation "wallets_balance_check")))) :
    (Transactions.bookFarEnd r amount c farEnd).Stages E g t Q := by
  cases farEnd with
  | wallet w =>
    exact discard (credit (held w rfl) (fun _ g' t' => post g' t') (refused w rfl) (short w rfl))
  | account reference => exact discard (counterparty rfl fun _ g' t' => post g' t')

theorem bookFee {E : Halt PostingError → Prop} {Q : Unit → Gauge → Tables → Prop}
    (post : ∀ g' t', g.Before g' → Books r.id t (feeLegs r.currency fee) t' → Q () g' t') :
    (Transactions.bookFee r fee).Stages E g t Q := by
  unfold Transactions.bookFee
  unfold feeLegs at post
  split
  · rename_i due
    rw [if_pos due] at post
    exact discard (counterparty rfl fun _ g' t' later posts => post g' t' later (.one posts))
  · rename_i free
    rw [if_neg free] at post
    exact pure (post g t (.refl g) .nil)

theorem bookReservation {E : Halt PostingError → Prop} {Q : Unit → Gauge → Tables → Prop}
    (stored : t.wallet? w.id = some w)
    (post : ∀ g' t', g.Before g' → Books r.id t (reservationLegs r w provider total) t' → Q () g' t')
    (refused : ∀ h, Ledger.Movement.debit w total total = .error h → E h)
    (short : ∀ m, Leg.Makes (.debit w total total) m → m.balance < 0 →
      E (.refused (.store (.checkViolation "wallets_balance_check")))) :
    (External.bookReservation r w provider total).Stages E g t Q := by
  refine bind (debit stored (fun _ g₁ t₁ later debited => ?_) refused short)
  refine bind (counterparty rfl fun _ g₂ t₂ later' credited => ?_)
  have soFar := later.trans later'
  unfold reservationLegs feeLegs at post
  split
  · rename_i due
    rw [if_pos due] at post
    refine discard (counterparty rfl fun _ g₃ t₃ latest charged => ?_)
    exact post g₃ t₃ (soFar.trans latest) (.cons debited (.cons credited (.one charged)))
  · rename_i free
    rw [if_neg free] at post
    exact pure (post g₂ t₂ soFar (.cons debited (.one credited)))

end Work.Stages

namespace Transactions

open Work

variable {g : Gauge} {t : Tables} {tell : StoreError → TransactionError}

theorem depositIn_honours (amount : checkedAmount r.amount r.currency = .ok a) :
    (depositIn r a tell posting).Runs (Conflicts r.idempotencyKey ⟨.deposit, r.walletId⟩ t) g t
      (Honours r.idempotencyKey ⟨.deposit, r.walletId⟩ (Deposits r a) g t) := by
  unfold depositIn
  refine .bind (.replay (fun fresh => ?_)
    (fun k known keyed held kind wallet =>
      .pure (.replayed keyed held (Transaction.purpose_eq.mpr ⟨kind, wallet⟩)))
    (fun k known keyed held other => .held keyed held (Transaction.purpose_ne.mpr other)))
  refine .bind (.lockWallet (fun w stored => ?_) (fun _ => .fresh fresh))
  refine .bind (.checked (fun _ same => ?_) (fun _ _ => .fresh fresh))
  have currency := checkCurrency_ok same
  have number : w.id = r.walletId := Rows.key_of_find? stored
  refine .bind (.stamp ?_)
  refine .bind (.insert (fun free => ?_) (fun _ _ => .fresh fresh))
  refine .bind (.told (.counterparty rfl fun _ g₁ t₁ later far => ?_))
  refine .bind (.told (.credit ?_ (fun _ g₂ t₂ latest near => ?_) (fun _ _ => .fresh fresh)
    (fun _ _ _ => .fresh fresh)))
  · have same := far.wallet?_other (w := w.id) (by rintro ⟨⟩)
    rw [same, number]
    exact stored
  · have alike := congrArg (Purpose.mk .deposit) number
    have booked := Books.cons far (.one near)
    exact .after (.told (.commit (.report_then (.pure (.created ⟨.next (Nat.le_trans later latest),
      free, .deposit r stored currency amount rfl, booked⟩ rfl alike (.deposits stored currency rfl))))))

theorem depositIn_runs (amount : checkedAmount r.amount r.currency = .ok a) :
    (depositIn r a tell posting).Runs (Conflicts r.idempotencyKey ⟨.deposit, r.walletId⟩ t) g t
      (Answers r.idempotencyKey ⟨.deposit, r.walletId⟩ g t) :=
  (depositIn_honours amount).mono fun _ _ _ _ honours => honours.answers

theorem transferIn_refuses (amount : checkedAmount r.amount r.currency = .ok a)
    (fee : checkedFee r.fee r.currency = .ok f) (apart : r.destination ≠ .wallet r.sourceWalletId)
    (worth : c.Of r a) : (transferIn r a f c tell posting).Runs (TransferRefused r a f c t) g t
      (Honours r.idempotencyKey ⟨.transfer, r.sourceWalletId⟩ (Transfers r a f c) g t) := by
  unfold transferIn
  refine .bind (.replay (fun fresh => ?_)
    (fun k known keyed held kind wallet =>
      .pure (.replayed keyed held (Transaction.purpose_eq.mpr ⟨kind, wallet⟩)))
    (fun k known keyed held other => .conflict keyed held (Transaction.purpose_ne.mpr other)))
  refine .bind (.lockEnds (fun w farEnd stored far => ?_)
    (fun id mine unknown => .stopped fresh (.missing mine unknown))
    (fun id d e sent held other => .stopped fresh (.foreign sent held (checkCurrency_error other))))
  refine .bind (.checked (fun _ same => ?_)
    (fun e other => .stopped fresh (.mismatched stored (checkCurrency_error other))))
  have currency := checkCurrency_ok same
  refine .bind (.stamp ?_)
  refine .bind (.insert (fun free => ?_) fun _ taken => ?_)
  · refine .bind (.exactly (fun total sum => ?_)
      (fun operation broken => .stopped fresh (.uncounted broken)))
    have number : w.id = r.sourceWalletId := Rows.key_of_find? stored
    refine .bind (.told (.debit (number ▸ stored) (fun _ g₁ t₁ later debited => ?_)
      (fun h why => .stopped fresh (.undebited stored sum why))
      (fun m made below => .stopped fresh (.overdrawn stored sum (Option.some.inj made) below))))
    refine .bind (.told (.bookFarEnd ?_ (fun g₂ t₂ later' landed => ?_) ?_ ?_))
    · rintro d rfl
      obtain ⟨id, place, held⟩ := far.wallet
      have number' : d.id = id := Rows.key_of_find? held
      rw [debited.wallet?_other, number']
      · exact held
      · rintro same
        have same : w.id = d.id := Account.wallet.inj same
        exact apart (by rw [place, ← number', ← same, number])
    · refine .bind (.told (.bookFee fun g₃ t₃ latest charged => ?_))
      have alike := congrArg (Purpose.mk .transfer) number
      have booked := Books.cons debited (.cons landed charged)
      exact .after (.told (.commit (.report_then (.pure (.created
        ⟨.next (Nat.le_trans later (Nat.le_trans later' latest)), free,
          .transfer r c farEnd apart stored currency far amount fee rfl sum worth, booked⟩ rfl alike
        (.transfers farEnd stored currency far rfl sum))))))
    · rintro d rfl h why
      obtain ⟨id, place, held⟩ := far.wallet
      exact .stopped fresh (.uncredited place held why)
    · rintro d rfl m made below
      obtain ⟨id, place, held⟩ := far.wallet
      exact .stopped fresh (.short place held (Option.some.inj made) below)
  · obtain ⟨k, keyed, held⟩ := taken
    exact absurd (fresh k keyed) held

theorem transferIn_honours (amount : checkedAmount r.amount r.currency = .ok a)
    (fee : checkedFee r.fee r.currency = .ok f) (apart : r.destination ≠ .wallet r.sourceWalletId)
    (worth : c.Of r a) : (transferIn r a f c tell posting).Runs
      (Conflicts r.idempotencyKey ⟨.transfer, r.sourceWalletId⟩ t) g t
      (Honours r.idempotencyKey ⟨.transfer, r.sourceWalletId⟩ (Transfers r a f c) g t) := by
  refine (transferIn_refuses amount fee apart worth).excused fun h refused => ?_
  cases refused with
  | conflict keyed stored other => exact .held keyed stored other
  | stopped fresh => exact .fresh fresh

theorem transferIn_runs (amount : checkedAmount r.amount r.currency = .ok a)
    (fee : checkedFee r.fee r.currency = .ok f) (apart : r.destination ≠ .wallet r.sourceWalletId)
    (worth : c.Of r a) : (transferIn r a f c tell posting).Runs
      (Conflicts r.idempotencyKey ⟨.transfer, r.sourceWalletId⟩ t) g t
      (Answers r.idempotencyKey ⟨.transfer, r.sourceWalletId⟩ g t) :=
  (transferIn_honours amount fee apart worth).mono fun _ _ _ _ honours => honours.answers

theorem deposit_lawful (r : DepositRequest) : (deposit r).Lawful fun _ => True := by
  refine .bind (.checked fun _ amount => amount) fun a amount => ?_
  exact .acts (.unit fun _ _ => depositIn_runs amount) fun _ _ _ _ _ answers =>
    answers.within nofun

end Transactions

namespace External

open Work Transactions

-- What a reservation comes to: the record that carries the key for the same purpose, or a new one
-- with its wallet debited.
inductive Places (d : Draft) (provider : String) (g : Gauge) (t : Tables) :
    Reservation → Gauge → Option Tables → Prop where
  | replayed (keyed : d.idempotencyKey = some k) (stored : t.transactionOf? k = some r)
      (alike : r.purpose = d.purpose) : Places d provider g t (.replayed r) g' none
  | reserved (stored : t.wallet? d.walletId = some w) (shape : r = d.toTransaction r.id moment)
      (sum : r.total = .ok total)
      (created : Created g t g' r (reservationLegs r w provider total) t') :
      Places d provider g t (.reserved r) g' (some t')

theorem Places.answers {found : Reservation} (places : Places d provider g t found g' p) :
    Answers d.idempotencyKey d.purpose g t found.transaction g' p := by
  cases places with
  | replayed keyed stored alike => exact .replayed keyed stored alike
  | @reserved _ r _ _ _ _ _ shape _ created =>
    have own : r.idempotencyKey = d.idempotencyKey ∧ r.purpose = d.purpose := by
      rw [shape]
      exact ⟨rfl, rfl⟩
    exact .created created own.1 own.2

-- The same of any draft at all, also of one that no request places.
inductive Debits (d : Draft) (provider : String) (g : Gauge) (t : Tables) :
    Reservation → Gauge → Option Tables → Prop where
  | replayed (keyed : d.idempotencyKey = some k) (stored : t.transactionOf? k = some r)
      (alike : r.purpose = d.purpose) : Debits d provider g t (.replayed r) g' none
  | reserved (stored : t.wallet? d.walletId = some w) (currency : w.currency = d.currency)
      (shape : r = d.toTransaction r.id moment) (sum : r.total = .ok total)
      (issued : Gauge.Gives Supply.transaction g g' r.id)
      (free : ∀ k, r.idempotencyKey = some k → t.transactionOf? k = none)
      (books : Books r.id (t.withTransaction r) (reservationLegs r w provider total) t') :
      Debits d provider g t (.reserved r) g' (some t')

theorem Debits.places {found : Reservation} (debits : Debits d provider g t found g' p)
    (placed : d.Placed) : Places d provider g t found g' p := by
  cases debits with
  | replayed keyed stored alike => exact .replayed keyed stored alike
  | reserved stored currency shape sum issued free books =>
    exact .reserved stored shape sum
      ⟨issued, free, .reservation d placed provider stored currency shape sum, books⟩

theorem reserve_debits (d : Draft) :
    (reserve d provider).Acts (fun _ t h => Conflicts d.idempotencyKey d.purpose t h)
      (Debits d provider) := by
  refine .unit fun g t => ?_
  refine .bind (.replayIn (fun fresh => ?_)
    (fun k known keyed held kind wallet =>
      .pure (.replayed keyed held (Transaction.purpose_eq.mpr ⟨kind, wallet⟩)))
    (fun k known keyed held other => .held keyed held (Transaction.purpose_ne.mpr other)))
  refine .bind (.told (.read (.bind (.found (fun w stored => ?_) (fun _ => .fresh fresh)))))
  refine .bind (.checked (fun _ same => ?_) (fun _ _ => .fresh fresh))
  refine .bind (.stamp (.bind (.insert (fun free => ?_) (fun _ _ => .fresh fresh))))
  refine .bind (.exactly (fun total sum => ?_) (fun _ _ => .fresh fresh))
  have number : w.id = d.walletId := Rows.key_of_find? stored
  refine .bind (.told (.bookReservation (number ▸ stored) (fun g₁ t₁ later books => ?_)
    (fun _ _ => .fresh fresh) (fun _ _ _ => .fresh fresh)))
  exact .after (.told (.commit (.report_then (.pure (.reserved stored (checkCurrency_ok same) rfl sum
    (.next later) free books)))))

theorem reserve_acts (placed : d.Placed) :
    (reserve d provider).Acts (fun _ t h => Conflicts d.idempotencyKey d.purpose t h)
      (Places d provider) :=
  (reserve_debits d).mono (fun _ _ _ => id) fun _ _ _ _ _ debits => debits.places placed

theorem reserve_lawful (placed : d.Placed) : (reserve d provider).Lawful fun _ => True := by
  refine .acts (reserve_acts placed) fun g t _ g' _ places => ?_
  cases places with
  | replayed => exact .kept trivial
  | reserved _ shape _ created =>
    refine .published trivial (.created created fun own => ?_)
    have outside := placed.kind
    rw [shape] at own
    change d.kind = _ at own
    rw [own] at outside
    cases outside

-- The commit of a deferral is empty where the record has another status by now.
inductive Defers (id : TransactionId) (expected : TransactionStatus) (t : Tables) :
    Option Tables → Prop where
  | touched (stored : t.transaction? id = some r) (current : r.status = expected) :
      Defers id expected t (some (t.withTouched id moment))
  | elsewhere (other : ∀ r, t.transaction? id = some r → r.status ≠ expected) :
      Defers id expected t (some t)

theorem defer_acts (id : TransactionId) (expected : TransactionStatus) :
    (defer id expected).Acts (fun _ _ _ => True) (fun _ t _ _ p => Defers id expected t p) := by
  refine .unit fun g t => .bind (.told (.touchTransactionIf (fun r stored current => ?_) (fun other => ?_)))
  · exact .told (.commit (.touched stored current))
  · exact .told (.commit (.elsewhere other))

theorem defer_lawful (id : TransactionId) (expected : TransactionStatus) :
    (defer id expected).Lawful fun _ => True := by
  refine .acts (defer_acts id expected) fun g t _ g' p defers => ?_
  cases defers with
  | touched stored => exact .published trivial (.deferred stored)
  | elsewhere => exact .published trivial .same

end External

namespace Wallets

inductive Opens (owner : Int) (currency : Currency) (walletType : WalletType) (g : Gauge) (t : Tables) :
    Wallet → Gauge → Option Tables → Prop where
  | opened (issued : Gauge.Gives Supply.wallet g g' number) (single : t.walletOf? owner currency = none)
      (free : t.wallet? number = none)
      (shape : w = ⟨number, owner, currency, 0, walletType, .active, now, now⟩) :
      Opens owner currency walletType g t w g' (some (t.withWallet w))

theorem create_acts (owner : Int) (currency : Currency) (walletType : WalletType) :
    (create owner currency walletType).Acts (fun _ _ _ => True) (Opens owner currency walletType) := by
  refine .unit fun g t => .bind ?_
  refine .bind (.now (.bind (.issue (.bind (.told (.insertWallet (fun single free => ?_)
    (fun _ => trivial)))))))
  refine .pure (.after (.told (.commit (.report_then (.pure ?_)))))
  exact .opened (.next (Nat.le_refl _)) single free rfl

theorem create_lawful (owner : Int) (currency : Currency) (walletType : WalletType) :
    (create owner currency walletType).Lawful fun _ => True := by
  refine .acts (create_acts owner currency walletType) fun g t _ g' p opens => ?_
  cases opens with
  | opened issued single free shape =>
    subst shape
    exact .published trivial (.opened owner currency walletType issued single free)

theorem request_lawful (owner : Int) (r : WalletRequest) :
    (request owner r).Lawful fun _ => True :=
  .bind (.checked fun _ _ => trivial) fun _ _ => create_lawful ..

theorem get_finds (id : WalletId) : (get id).Finds (·.wallet? id) :=
  .unit fun _ _ => .bind (.told (.read (.keep (.found (fun _ stored => ⟨stored, rfl⟩)
    fun missing => missing))))

theorem get_lawful (id : WalletId) : (get id).Lawful fun _ => True := .reads (get_finds id).reads

theorem ofOwner_finds (owner : Int) (currency : Currency) :
    (ofOwner owner currency).Finds (·.walletOf? owner currency) :=
  .unit fun _ _ => .bind (.told (.read (.keep (.found (fun _ stored => ⟨stored, rfl⟩)
    fun missing => missing))))

theorem ofOwner_lawful (owner : Int) (currency : Currency) :
    (ofOwner owner currency).Lawful fun _ => True := .reads (ofOwner_finds owner currency).reads

inductive Restates (id : WalletId) (status : WalletStatus) (t : Tables) :
    Wallet → Option Tables → Prop where
  | same (stored : t.wallet? id = some w) (already : w.status = status) : Restates id status t w none
  | restated (stored : t.wallet? id = some w) (differs : w.status ≠ status)
      (unclosed : w.status ≠ .closed) (empty : status = .closed → w.balance.isZero = true) :
      Restates id status t { w with status } (some (t.withStatus id status moment))

theorem setStatus_acts (id : WalletId) (status : WalletStatus) :
    (setStatus id status).Acts (fun _ _ _ => True) (fun _ t w _ p => Restates id status t w p) := by
  refine .unit fun g t => .bind (.told (.read (.bind (.found (fun w stored => ?_) fun _ => trivial))))
  split
  · rename_i already
    exact .pure (.same stored already)
  · rename_i differs
    split
    · exact .refuse trivial
    · rename_i unclosed
      split
      · exact .refuse trivial
      · rename_i fine
        refine .bind (.told (.updateWalletStatus (fun _ _ => ?_) (fun _ => trivial)))
        refine .after (.told (.commit (.report_then (.pure ?_))))
        refine .restated stored differs unclosed fun closing => ?_
        simpa [closing] using fine

theorem setStatus_lawful (id : WalletId) (status : WalletStatus) :
    (setStatus id status).Lawful fun _ => True := by
  refine .acts (setStatus_acts id status) fun g t _ g' p restates => ?_
  cases restates with
  | same => exact .kept trivial
  | restated stored differs unclosed empty =>
    exact .published trivial (.restated stored differs unclosed empty)

theorem verify_reads (id : WalletId) : (verify id).Reads := by
  refine .unit fun g t => .bind (.told (.read (.bind (.found (fun w stored => ?_) fun _ => trivial))))
  refine .bind (.told (.ledgerSumForWallet (fun sum _ => ?_) (fun _ _ => trivial)))
  refine .bind (.exactly (fun drift _ => ?_) (fun _ _ => trivial))
  split
  · exact .pure rfl
  · exact .bind (.report (.pure rfl))

theorem verify_lawful (id : WalletId) : (verify id).Lawful fun _ => True := .reads (verify_reads id)

end Wallets

namespace Rates

theorem record_acts {r : Rate} (positive : ¬ r.rate ≤ 0) :
    (record r).Acts (fun _ _ _ => False) (fun _ t a _ p => a = r ∧ p = some (t.withRate r)) := by
  unfold record
  rw [if_neg positive]
  refine .unit fun g t => .bind (.told (.insertRate (fun _ => ?_) positive))
  exact .after (.told (.commit (.report_then (.pure ⟨rfl, rfl⟩))))

theorem record_lawful (r : Rate) : (record r).Lawful fun _ => True := by
  by_cases low : r.rate ≤ 0
  · unfold record
    rw [if_pos low]
    exact .refuse
  · refine .acts (record_acts low) ?_
    rintro _ _ _ _ _ ⟨_, rfl⟩
    exact .published trivial (.rated r low)

theorem get_acts (apart : base ≠ quote) :
    (get base quote).Acts
      (fun g t h => h = .refused (.noRateAvailable base quote) ∧ t.rate? base quote g.clock = none)
      (fun g t x _ p => (∃ r, t.rate? base quote g.clock = some r ∧ x = r.rate) ∧ p = none) := by
  unfold get
  rw [if_neg apart]
  refine .unit fun g t => .bind (.now (.bind (.told (.read (.bind (.found (fun r known => ?_)
    fun missing => ⟨rfl, missing⟩))))))
  exact .bind (.report (.pure ⟨⟨r, known, rfl⟩, rfl⟩))

theorem get_lawful (base quote : Currency) : (get base quote).Lawful fun _ => True := by
  by_cases same : base = quote
  · unfold get
    rw [if_pos same]
    exact .pure trivial
  · exact .reads ((get_acts same).reads fun _ _ _ _ _ found => found.2)

theorem convert_lawful (amount : Decimal) (base quote : Currency) :
    (convert amount base quote).Lawful fun _ => True :=
  .bind (get_lawful base quote) fun _ _ => .bind (.exactly fun _ _ => trivial) fun _ _ => .pure trivial

end Rates

namespace Transactions

theorem get_finds (id : TransactionId) : (get id).Finds (·.transaction? id) :=
  .unit fun _ _ => .bind (.told (.read (.keep (.found (fun _ stored => ⟨stored, rfl⟩)
    fun missing => missing))))

theorem get_lawful (id : TransactionId) : (get id).Lawful fun _ => True := .reads (get_finds id).reads

theorem entries_reads (id : TransactionId) : (entries id).Reads :=
  .unit fun _ _ => .keep (.told (.read rfl))

theorem entries_lawful (id : TransactionId) : (entries id).Lawful fun _ => True :=
  .reads (entries_reads id)

theorem loadWallet_acts (id : WalletId) :
    (loadWallet id).Acts (fun _ t _ => t.wallet? id = none)
      (fun g t w g' p => t.wallet? id = some w ∧ g' = g ∧ p = none) :=
  .unit fun _ _ => .bind (.told (.read (.keep (.found (fun _ stored => ⟨stored, rfl, rfl⟩)
    fun missing => missing))))

theorem loadWallet_lawful (id : WalletId) : (loadWallet id).Lawful fun _ => True :=
  .reads ((loadWallet_acts id).reads fun _ _ _ _ _ loaded => loaded.2.2)

theorem findByKey_acts (key : String) :
    (findByKey (some key)).Acts (fun _ _ _ => False)
      (fun _ t known _ p => known = t.transactionOf? key ∧ p = none) :=
  .unit fun _ _ => .keep (.told (.read ⟨rfl, rfl⟩))

theorem findByKey_lawful (key : Option String) : (findByKey key).Lawful fun _ => True := by
  cases key with
  | none => exact .pure trivial
  | some key =>
    exact .reads ((findByKey_acts key).reads fun _ _ _ _ _ known => known.2)

theorem credited_lawful (r : TransferRequest) (amount : Decimal) :
    (credited r amount).Lawful fun c => c.Of r amount := by
  have rate : (creditedRate r).Lawful fun known => known.2 = none → known.1 = r.currency := by
    unfold creditedRate
    split
    · exact .pure fun _ => rfl
    · refine .bind (loadWallet_lawful _) fun w _ => ?_
      split
      · rename_i same
        exact .pure fun _ => same
      · exact .bind (.told (Rates.get_lawful _ _)) fun _ _ => .pure nofun
  have positive (c : Credited) (worth : c.Of r amount) :
      (if c.amount ≤ 0 then Task.refuse .amountTooSmall else pure c :
        Task TransactionError Credited).Lawful fun c => c.Of r amount := by
    split
    · exact .refuse
    · exact .pure worth
  refine .bind rate fun known same => ?_
  obtain ⟨currency, rate⟩ := known
  cases rate with
  | none => exact .bind (.pure rfl) fun _ sent => positive ⟨_, _, _⟩ (.inl ⟨same rfl, sent.symm⟩)
  | some x =>
    refine .after (.exactly fun _ _ => trivial) fun product => ?_
    exact .bind (.pure rfl) fun _ sent => positive ⟨_, _, _⟩ (.inr ⟨product, sent.symm⟩)

theorem transfer_lawful (r : TransferRequest) : (transfer r).Lawful fun _ => True := by
  refine .bind (.checked fun _ amount => amount) fun a amount => ?_
  refine .bind (.checked fun _ fee => fee) fun f fee => ?_
  split
  · exact .refuse
  · rename_i apart
    refine .bind (credited_lawful r a) fun c worth => ?_
    exact .acts (.unit fun _ _ => transferIn_runs amount fee apart worth) fun _ _ _ _ _ answers =>
      answers.within nofun

end Transactions
end Treasury
