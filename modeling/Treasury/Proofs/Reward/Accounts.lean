import Treasury.Proofs.Reward.Requests
import Mathlib.Algebra.BigOperators.Group.List.Basic
import Mathlib.Tactic.Ring

namespace Treasury

def Referral.share (r : Referral) (user : Int) : ℚ :=
  if r.referrerId = user then r.bonus.value else 0

def Withdrawal.share (w : Withdrawal) (user : Int) (statuses : List WithdrawalStatus) : ℚ :=
  if w.userId = user ∧ w.status ∈ statuses then w.amount.value else 0

-- The exact amounts of a row of earnings.
structure Purse where
  earned : ℚ
  available : ℚ
  withdrawn : ℚ

namespace Purse

def taken (p : Purse) : ℚ := p.earned - p.available

def inFlight (p : Purse) : ℚ := p.taken - p.withdrawn

def earns (p : Purse) (q : ℚ) : Purse := { p with earned := p.earned + q, available := p.available + q }

def asks (p : Purse) (q : ℚ) : Purse := { p with available := p.available - q }

def decides (p : Purse) (q : ℚ) : WithdrawalStatus → Purse
  | .rejected => { p with available := p.available + q }
  | .completed => { p with withdrawn := p.withdrawn + q }
  | .approved | .pending => p

-- Each of these amounts is worked out when the row is written, and is rounded or overflows where
-- no decimal has it.
structure Fits (p : Purse) : Prop where
  earned : Decimal.Fits p.earned
  available : Decimal.Fits p.available
  withdrawn : Decimal.Fits p.withdrawn
  taken : Decimal.Fits p.taken
  inFlight : Decimal.Fits p.inFlight

end Purse

namespace Earnings

def purse (e : Earnings) : Purse := ⟨e.totalEarned.value, e.available.value, e.withdrawn.value⟩

variable {e : Earnings}

theorem inFlight_exact (fits : e.purse.Fits) : ∃ d, e.inFlight = .ok d ∧ d.value = e.purse.inFlight := by
  obtain ⟨taken, worked, amount⟩ := Decimal.sub_exact fits.taken
  have rest : taken.value - e.withdrawn.value = e.purse.inFlight := by rw [amount]; rfl
  obtain ⟨d, worked', amount'⟩ := Decimal.sub_exact (rest ▸ fits.inFlight)
  refine ⟨d, ?_, amount'.trans rest⟩
  rw [inFlight, worked]
  exact worked'

theorem isConsistent_of_fits (fits : e.purse.Fits) (covered : 0 ≤ e.purse.available)
    (rest : 0 ≤ e.purse.inFlight) : e.isConsistent = .ok true := by
  obtain ⟨d, worked, amount⟩ := inFlight_exact fits
  have above : 0 ≤ e.available := by
    rw [Decimal.le_iff_value, Decimal.value_zero]
    exact covered
  have open_ : 0 ≤ d := by
    rw [Decimal.le_iff_value, Decimal.value_zero, amount]
    exact rest
  rw [isConsistent, if_pos above, worked]
  simp [Except.map, open_]

theorem available_of_consistent (consistent : e.isConsistent = .ok true) : 0 ≤ e.purse.available := by
  unfold isConsistent at consistent
  split at consistent
  · rename_i above
    rw [Decimal.le_iff_value, Decimal.value_zero] at above
    exact above
  · cases consistent

end Earnings

theorem Earnings.earns_exact {e : Earnings} {q total rest : Decimal}
    (fits : (e.purse.earns q.value).Fits) (earned : e.totalEarned.add q = .ok total)
    (more : e.available.add q = .ok rest) :
    purse { e with totalEarned := total, available := rest, updatedAt := moment } =
      e.purse.earns q.value := by
  have total := Decimal.add_value earned fits.earned
  have rest := Decimal.add_value more fits.available
  simp only [purse, Purse.earns, total, rest]

theorem Earnings.asks_exact {e : Earnings} {q rest : Decimal} (fits : (e.purse.asks q.value).Fits)
    (less : e.available.sub q = .ok rest) :
    purse { e with available := rest, updatedAt := moment } = e.purse.asks q.value := by
  have rest := Decimal.sub_value less fits.available
  simp only [purse, Purse.asks, rest]

theorem CarriesOut.exact {e e' : Earnings} (fits : (e.purse.decides w.amount.value status).Fits)
    (carries : CarriesOut g t g' w e status e' payout t') :
    e'.purse = e.purse.decides w.amount.value status := by
  cases carries with
  | rejected back =>
    have rest := Decimal.add_value back fits.available
    simp only [Earnings.purse, Purse.decides, rest]
  | completed _ _ _ paid =>
    have rest := Decimal.add_value paid fits.withdrawn
    simp only [Earnings.purse, Purse.decides, rest]
  | approved => rfl
  | pending => rfl

theorem CarriesOut.userId (carries : CarriesOut g t g' w e status e' payout t') :
    e'.userId = e.userId := by
  cases carries <;> rfl

theorem Rows.sum_amend [DecidableEq κ] {key : α → κ} {rows : List α} {change : α → α} {f : α → ℚ}
    (unique : (rows.map key).Nodup) (found : find? key k rows = some r) :
    ((amend key k change rows).map f).sum = (rows.map f).sum - f r + f (change r) := by
  induction rows with
  | nil => cases found
  | cons head rest ih =>
    simp only [List.map_cons, List.nodup_cons] at unique
    by_cases mine : key head = k
    · have first : head = r := by simpa [find?, mine] using found
      have others : amend key k change rest = rest := by
        refine (List.map_congr_left fun x mem => if_neg fun same => unique.1 ?_).trans (List.map_id rest)
        rw [mine, ← same]
        exact List.mem_map_of_mem mem
      subst first
      change (List.map f ((if key head = k then change head else head) ::
        amend key k change rest)).sum = _
      rw [others, if_pos mine, List.map_cons, List.sum_cons, List.map_cons, List.sum_cons]
      ring
    · have deeper : find? key k rest = some r := by simpa [find?, mine] using found
      have rest := ih unique.2 deeper
      change (List.map f ((if key head = k then change head else head) ::
        amend key k change _)).sum = _
      rw [if_neg mine, List.map_cons, List.sum_cons, rest, List.map_cons, List.sum_cons]
      ring

namespace Tables

variable {g g' : Gauge} {t t' : Tables} {user v : Int}

def bonuses (t : Tables) (user : Int) : ℚ := (t.referrals.map (·.share user)).sum

def requested (t : Tables) (user : Int) (statuses : List WithdrawalStatus) : ℚ :=
  (t.withdrawals.map (·.share user statuses)).sum

def purse (t : Tables) (user : Int) : Purse :=
  ⟨t.bonuses user, t.bonuses user - t.requested user [.pending, .approved, .completed],
    t.requested user [.completed]⟩

theorem lockedEarnings_userId (t : Tables) (user : Int) (moment : Instant) :
    (t.lockedEarnings user moment).userId = user := by
  unfold lockedEarnings
  cases stored : t.earnings? user with
  | none => rfl
  | some e =>
    have own : e.userId = user := Rows.key_of_find? stored
    exact own

theorem withLocked_earnings (t t' : Tables) (same : t'.earnings = t.earnings) (user : Int) (moment : Instant) :
    (t'.withLocked user moment).earnings = (t.withLocked user moment).earnings := by
  unfold withLocked earnings?
  rw [same]
  split <;> simp [same]

theorem lockedEarnings_written {e : Earnings} (own : e.userId = user)
    (rows : t'.earnings = ((t.withLocked user moment).withEarnings e).earnings) (now : Instant) :
    t'.lockedEarnings v now = if user = v then e else t.lockedEarnings v now := by
  have written : t'.earnings? v = if user = v then some e else (t.withLocked user moment).earnings? v := by
    rw [earnings?, rows, ← own]
    exact Rows.find?_put v
  unfold lockedEarnings
  rw [written]
  by_cases mine : user = v
  · simp [mine]
  · simp only [mine, if_false]
    unfold withLocked
    split
    · rfl
    · rename_i free
      have free : Rows.find? Earnings.userId user t.earnings = none := by simpa [earnings?] using free
      have other : Rows.find? Earnings.userId v (t.earnings ++ [.empty user moment]) = t.earnings? v :=
        (Rows.find?_append_new free v).trans (if_neg mine)
      rw [earnings?, other]

theorem purse_referred (t' : Tables) {r : Referral} (referrals : t'.referrals = t.referrals ++ [r])
    (withdrawals : t'.withdrawals = t.withdrawals) (v : Int) :
    t'.purse v = if r.referrerId = v then (t.purse v).earns r.bonus.value else t.purse v := by
  have more : t'.bonuses v = t.bonuses v + r.share v := by
    rw [bonuses, referrals, List.map_append, List.sum_append]
    simp [bonuses]
  by_cases mine : r.referrerId = v
  · simp only [purse, requested, withdrawals, more, Referral.share, mine, if_true, Purse.earns]
    ring_nf
  · simp only [purse, requested, withdrawals, more, Referral.share, mine, if_false, add_zero]

theorem purse_requested (t' : Tables) {w : Withdrawal} (free : t.withdrawal? w.id = none) (waits : w.status = .pending)
    (referrals : t'.referrals = t.referrals)
    (rows : t'.withdrawals = Rows.put Withdrawal.id w t.withdrawals) (v : Int) :
    t'.purse v = if w.userId = v then (t.purse v).asks w.amount.value else t.purse v := by
  have more (statuses : List WithdrawalStatus) :
      t'.requested v statuses = t.requested v statuses + w.share v statuses := by
    rw [requested, rows, Rows.put_new free, List.map_append, List.sum_append]
    simp [requested]
  by_cases mine : w.userId = v
  · simp [purse, bonuses, referrals, more, Withdrawal.share, mine, waits, Purse.asks]
    ring
  · simp [purse, bonuses, referrals, more, Withdrawal.share, mine]

theorem purse_decided (t' : Tables) (filed : t.Filed g) (stored : t.withdrawal? number = some w)
    (moves : w.status.canBecome status = true) (referrals : t'.referrals = t.referrals)
    (rows : t'.withdrawals = (t.withDecided number status payout moment).withdrawals) (v : Int) :
    t'.purse v = if w.userId = v then (t.purse v).decides w.amount.value status else t.purse v := by
  have more (statuses : List WithdrawalStatus) :
      t'.requested v statuses = t.requested v statuses - w.share v statuses + Withdrawal.share
        { w with status, transactionId := payout.or w.transactionId, updatedAt := moment } v
        statuses := by
    rw [requested, rows]
    exact Rows.sum_amend filed.single stored
  by_cases mine : w.userId = v
  · cases before : w.status <;> cases status <;> rw [before] at moves <;> cases moves <;>
      simp [purse, bonuses, referrals, more, Withdrawal.share, mine, before, Purse.decides]
    all_goals ring
  · simp [purse, bonuses, referrals, more, Withdrawal.share, mine]

-- The row of each user, if there is one, shows the exact amounts, and what is available in it is
-- not negative.
def Accounted (t : Tables) : Prop :=
  ∀ user moment, (t.lockedEarnings user moment).purse = t.purse user ∧ 0 ≤ (t.purse user).available

-- No amount that the rows are worked out from is rounded.
def Exact (t : Tables) : Prop := ∀ user, (t.purse user).Fits

namespace Accounted

theorem empty : Tables.empty.Accounted := by
  intro user moment
  have nothing : Tables.empty.purse user = ⟨0, 0, 0⟩ := by simp [purse, bonuses, requested, Tables.empty]
  rw [nothing]
  refine ⟨?_, le_refl _⟩
  simp [lockedEarnings, earnings?, Rows.find?, Tables.empty, Earnings.empty, Earnings.purse]

theorem of_same (accounted : t.Accounted) (referrals : t'.referrals = t.referrals)
    (earnings : t'.earnings = t.earnings) (withdrawals : t'.withdrawals = t.withdrawals) :
    t'.Accounted := by
  intro user moment
  have row : t'.lockedEarnings user moment = t.lockedEarnings user moment := by
    rw [lockedEarnings, earnings?, earnings]
    rfl
  have purse : t'.purse user = t.purse user := by
    simp only [Tables.purse, bonuses, requested, referrals, withdrawals]
  rw [row, purse]
  exact accounted user moment

theorem written {e : Earnings} (accounted : t.Accounted) (own : e.userId = user)
    (rows : t'.earnings = ((t.withLocked user moment).withEarnings e).earnings)
    (consistent : e.isConsistent = .ok true) (mine : e.purse = t'.purse user)
    (others : ∀ v, user ≠ v → t'.purse v = t.purse v) : t'.Accounted := by
  intro v now
  rw [lockedEarnings_written own rows]
  by_cases same : user = v
  · subst same
    rw [if_pos rfl]
    exact ⟨mine, mine ▸ e.available_of_consistent consistent⟩
  · rw [if_neg same, others v same]
    exact accounted v now

theorem moved {e : Earnings} {f : Purse → Purse} (accounted : t.Accounted) (exact : t'.Exact)
    (own : e.userId = user)
    (rows : t'.earnings = ((t.withLocked user moment).withEarnings e).earnings)
    (consistent : e.isConsistent = .ok true)
    (purses : ∀ v, t'.purse v = if user = v then f (t.purse v) else t.purse v)
    (moves : (f (t.purse user)).Fits → e.purse = f (t.purse user)) : t'.Accounted := by
  have mine := (purses user).trans (if_pos rfl)
  have fits := exact user
  rw [mine] at fits
  refine accounted.written own rows consistent ?_ fun v other => (purses v).trans (if_neg other)
  rw [mine]
  exact moves fits

theorem change (accounted : t.Accounted) (filed : t.Filed g) (apart : g'.Apart Supply.withdrawal)
    (later : g.Before g') (exact : t'.Exact) (change : Change g t g' t') : t'.Accounted := by
  have shown {e : Earnings} {user : Int} {moment : Instant} (locked : e = t.lockedEarnings user moment) :
      e.purse = t.purse user ∧ e.userId = user := by
    rw [locked]
    exact ⟨(accounted user _).1, t.lockedEarnings_userId _ _⟩
  cases change with
  | created created =>
    rw [created.frame]
    exact accounted.of_same rfl rfl rfl
  | @referred e moment _ _ e' _ r _ _ _ _ locked earned more shape consistent =>
    obtain ⟨row, own⟩ := shown locked
    have rows : (((t.withReferral r).withLocked r.referrerId moment).withEarnings e').earnings =
        ((t.withLocked r.referrerId moment).withEarnings e').earnings :=
      congrArg (Rows.put Earnings.userId e') (withLocked_earnings t (t.withReferral r) rfl _ _)
    refine accounted.moved (f := (·.earns r.bonus.value)) exact (by rw [shape, own]) rows consistent
      (fun v => ?_) fun fits => ?_
    · refine purse_referred _ ?_ ?_ v
      · rw [withLocked_frame]
        rfl
      · rw [withLocked_frame]
        rfl
    · rw [← row] at fits ⊢
      rw [shape]
      exact Earnings.earns_exact fits earned more
  | @requested number e moment currency w available e' now _ user amount issued positive locked enough
      settles less shape consistent =>
    obtain ⟨row, own⟩ := shown locked
    have purses := purse_requested (((t.withLocked user moment).withEarnings e').withWithdrawal
        ⟨number, user, amount, w.id, .pending, none, now, now⟩)
      (filed.fresh apart later issued) rfl (by rw [withLocked_frame]; rfl) (by rw [withLocked_frame]; rfl)
    refine accounted.moved (f := (·.asks amount.value)) exact (by rw [shape, own]) rfl consistent purses
      fun fits => ?_
    rw [← row] at fits ⊢
    rw [shape]
    exact Earnings.asks_exact fits less
  | @decided number w status e moment e' payout t₁ e'' decided _ stored moves locked carries shape
      consistent =>
    obtain ⟨row, own⟩ := shown locked
    have rows : ((t₁.withEarnings e'').withDecided number status payout decided).earnings =
        ((t.withLocked w.userId moment).withEarnings e'').earnings := by
      rw [carries.frame]
      rfl
    refine accounted.moved (f := (·.decides w.amount.value status)) exact
      (by rw [shape, carries.userId, own]) rows consistent (fun v => ?_) fun fits => ?_
    · refine purse_decided _ filed stored moves ?_ (carries.rows _ _ _) v
      rw [carries.frame, withLocked_frame]
      rfl
    · rw [← row] at fits ⊢
      rw [← carries.exact fits, shape]
      rfl
  | _ => exact accounted.of_same rfl rfl rfl

theorem step (accounted : t.Accounted) (filed : t.Filed g) (apart : g'.Apart Supply.withdrawal)
    (later : g.Before g') (exact : t'.Exact) (step : Step g t g' t') : t'.Accounted := by
  cases step with
  | change change => exact accounted.change filed apart later exact change
  | settle c settles =>
    cases settles with
    | touched => exact accounted.of_same rfl rfl rfl
    | decided _ _ _ _ books =>
      rw [withChanged, books.frame]
      exact accounted.of_same rfl rfl rfl

end Accounted
end Tables
end Treasury
