import Treasury.Proofs.Reward.Accounts
import Treasury.Proofs.World.Later
import Mathlib.Algebra.Order.BigOperators.Group.List

namespace Treasury

-- The calls that write earnings.
inductive RewardCall where
  | track (referrer referee : Int) (bonus : Decimal)
  | request (policy : RewardPolicy) (user : Int) (amount : Decimal)
  | update (id : WithdrawalId) (status : WithdrawalStatus)

-- The exact amounts of the row that a call is about to write, once its checks let it.
inductive RewardCall.Leads (t : Tables) : RewardCall → Purse → Prop where
  | track (others : referrer ≠ referee) (positive : ¬ bonus ≤ 0) (free : t.referral? referee = none) :
      Leads t (.track referrer referee bonus) ((t.purse referrer).earns bonus.value)
  | request (positive : ¬ amount ≤ 0) (enough : ¬ amount < policy.threshold)
      (covered : amount.value ≤ (t.purse user).available) :
      Leads t (.request policy user amount) ((t.purse user).asks amount.value)
  | update (stored : t.withdrawal? number = some w) (moves : w.status.canBecome status = true) :
      Leads t (.update number status) ((t.purse w.userId).decides w.amount.value status)

def Task.refusal? (task : Task ε α) (s : Server) : Option ε :=
  match (task.run.runAlone World.silence s).1 with
  | .error (.refused e) => some e
  | _ => none

def RewardCall.refusal? (s : Server) : RewardCall → Option RewardError
  | .track referrer referee bonus => (Rewards.track referrer referee bonus).refusal? s
  | .request policy user amount => (Rewards.request policy user amount).refusal? s
  | .update id status => (Rewards.update id status).refusal? s

namespace Tables

variable {g : Gauge} {t : Tables} {user : Int}

theorem requested_split (t : Tables) (user : Int) :
    t.requested user [.pending, .approved, .completed] =
      t.requested user [.pending, .approved] + t.requested user [.completed] := by
  unfold requested
  rw [← List.sum_map_add]
  congr 1
  apply List.map_congr_left
  intro w _
  by_cases mine : w.userId = user
  · cases status : w.status <;> simp [Withdrawal.share, mine, status]
  · simp [Withdrawal.share, mine]

theorem purse_inFlight (t : Tables) (user : Int) :
    (t.purse user).inFlight = t.requested user [.pending, .approved] := by
  simp only [Purse.inFlight, Purse.taken, purse, requested_split]
  ring

theorem inFlight_not_neg (positive : ∀ w ∈ t.withdrawals, ¬ w.amount ≤ 0) :
    0 ≤ (t.purse user).inFlight := by
  rw [purse_inFlight]
  apply List.sum_nonneg
  intro q mem
  obtain ⟨w, there, rfl⟩ := List.mem_map.mp mem
  have above := positive w there
  rw [Decimal.le_iff_value, Decimal.value_zero, not_le] at above
  unfold Withdrawal.share
  split
  · exact le_of_lt above
  · exact le_refl 0

end Tables

theorem Purse.earns_inFlight (p : Purse) (q : ℚ) : (p.earns q).inFlight = p.inFlight := by
  simp only [earns, inFlight, taken]
  ring

theorem Purse.asks_inFlight (p : Purse) (q : ℚ) : (p.asks q).inFlight = p.inFlight + q := by
  simp only [asks, inFlight, taken]
  ring

theorem Purse.decides_available {p : Purse} {q : ℚ} (covered : 0 ≤ p.available) (above : 0 ≤ q)
    (status : WithdrawalStatus) : 0 ≤ (p.decides q status).available := by
  cases status with
  | rejected => exact add_nonneg covered above
  | completed => exact covered
  | approved => exact covered
  | pending => exact covered

-- What a decision leaves open is what the other requests still hold.
theorem Tables.decides_inFlight {g : Gauge} {t : Tables} (filed : t.Filed g)
    (stored : t.withdrawal? number = some w) (moves : w.status.canBecome status = true) :
    0 ≤ ((t.purse w.userId).decides w.amount.value status).inFlight := by
  have after := purse_decided (t.withDecided number status none w.updatedAt) filed stored moves rfl rfl
    w.userId
  rw [if_pos rfl] at after
  rw [← after]
  apply inFlight_not_neg
  intro x mem
  rcases filed.decided stored mem with old | rfl
  · exact filed.positive x old
  · exact filed.positive w (Rows.mem_of_find? stored)

theorem Purse.Fits.consistent {p : Purse} {e : Earnings} (fits : p.Fits) (shown : e.purse = p)
    (covered : 0 ≤ p.available) (rest : 0 ≤ p.inFlight) : e.isConsistent = .ok true := by
  subst shown
  exact e.isConsistent_of_fits fits covered rest

theorem Decimal.value_pos {q : Decimal} (positive : ¬ q ≤ 0) : 0 < q.value := by
  rw [le_iff_value, value_zero, not_le] at positive
  exact positive

namespace Rewards

variable {g : Gauge} {t : Tables} {context : String}

theorem trackIn_balanced (accounted : t.Accounted) (filed : t.Filed g₀) (others : referrer ≠ referee)
    (positive : ¬ bonus ≤ 0)
    (exact : ∀ p, (RewardCall.track referrer referee bonus).Leads t p → p.Fits) :
    (trackIn referrer referee bonus (.storage context)).Runs (fun h => ¬ Unbalanced h) g t
      fun _ _ _ => True := by
  refine .bind (.told (.read ?_))
  split
  · exact .refuse (by rintro ⟨_, ⟨⟩⟩)
  · rename_i free
    have fits := exact _ (.track others positive (by simpa using free))
    refine .bind (.issue (.bind (.now (.bind (.told (.insertReferral (fun _ => ?_) fun _ => ?_))))))
    · refine .bind (.lockRewards fun g₁ _ => ?_)
      obtain ⟨row, covered⟩ := accounted referrer g.clock.next
      have more := Decimal.value_pos positive
      have pending : 0 ≤ (t.purse referrer).inFlight := t.inFlight_not_neg filed.positive
      refine .bind (.exactly (fun total earned => ?_) fun _ _ => by rintro ⟨_, ⟨⟩⟩)
      refine .bind (.exactly (fun rest added => ?_) fun _ _ => by rintro ⟨_, ⟨⟩⟩)
      refine .bind (.writeEarnings (fun _ _ _ => ?_) fun h inconsistent => ?_)
      · exact .after (.told (.commit (.report_then (.pure trivial))))
      · refine absurd (fits.consistent ?_ (add_nonneg covered (le_of_lt more)) ?_) inconsistent
        · rw [← row] at fits ⊢
          exact Earnings.earns_exact fits earned added
        · rw [Purse.earns_inFlight]
          exact pending
    · rintro ⟨_, ⟨⟩⟩

theorem requestIn_balanced (accounted : t.Accounted) (filed : t.Filed g₀) (positive : ¬ amount ≤ 0)
    (enough : ¬ amount < policy.threshold)
    (exact : ∀ p, (RewardCall.request policy user amount).Leads t p → p.Fits) :
    (requestIn policy user amount (.storage context)).Runs (fun h => ¬ Unbalanced h) g t
      fun _ _ _ => True := by
  refine .bind (.lockRewards fun g₁ _ => ?_)
  obtain ⟨row, _⟩ := accounted user g.clock
  split
  · exact .refuse (by rintro ⟨_, ⟨⟩⟩)
  · rename_i covered
    rw [Decimal.lt_iff_value, not_lt] at covered
    have shown := congrArg Purse.available row
    have within : amount.value ≤ (t.purse user).available := shown ▸ covered
    have fits := exact _ (.request positive enough within)
    have pending : 0 ≤ (t.purse user).inFlight := t.inFlight_not_neg filed.positive
    refine .bind (.told (.read (.bind (.found (fun w _ => ?_) fun _ => by rintro ⟨_, ⟨⟩⟩))))
    refine .bind (.exactly (fun rest taken => ?_) fun _ _ => by rintro ⟨_, ⟨⟩⟩)
    refine .bind (.writeEarnings (fun _ _ _ => ?_) fun h inconsistent => ?_)
    · refine .bind (.now (.bind (.issue (.bind (.told (.write ?_))))))
      exact .after (.told (.commit (.report_then (.pure trivial))))
    · refine absurd (fits.consistent ?_ (sub_nonneg.mpr within) ?_) inconsistent
      · rw [← row] at fits ⊢
        exact Earnings.asks_exact fits taken
      · rw [Purse.asks_inFlight]
        exact add_nonneg pending (le_of_lt (Decimal.value_pos positive))

theorem updateIn_balanced (accounted : t.Accounted) (filed : t.Filed g₀)
    (exact : ∀ p, (RewardCall.update number status).Leads t p → p.Fits) :
    (updateIn number status (.storage context)).Runs (fun h => ¬ Unbalanced h) g t
      fun _ _ _ => True := by
  refine .bind (.told (.read (.bind (.found (fun w stored => ?_) fun _ => by rintro ⟨_, ⟨⟩⟩))))
  split
  · exact .bind (.report (.pure trivial))
  · split
    · exact .bind (.report (.refuse (by rintro ⟨_, ⟨⟩⟩)))
    · rename_i moves
      have moves : w.status.canBecome status = true := by simpa using moves
      have fits := exact _ (.update stored moves)
      refine .bind (.lockRewards fun g₁ _ => ?_)
      obtain ⟨row, covered⟩ := accounted w.userId g.clock
      refine .bind (.carryOut (fun e' payout g₂ t₁ _ carries => ?_) fun _ fine => fine)
      refine .bind (.writeEarnings (fun _ _ _ => ?_) fun h inconsistent => ?_)
      · refine .bind (.told (.updateWithdrawalRequest (fun _ _ => ?_) fun _ => by rintro ⟨_, ⟨⟩⟩))
        exact .after (.told (.commit (.report_then (.now_then (.pure trivial)))))
      · have above := Decimal.value_pos (filed.positive w (Rows.mem_of_find? stored))
        refine absurd (fits.consistent ?_ (Purse.decides_available covered (le_of_lt above) status)
          (Tables.decides_inFlight filed stored moves)) inconsistent
        rw [← row] at fits ⊢
        have shown := carries.exact fits
        exact shown

end Rewards

theorem Task.unit_refusal {s : Server} {w : Work ε α} {E : Halt ε → Prop}
    {Q : α → Gauge → Option Tables → Prop} {tell : StoreError → ε}
    (runs : w.Runs E s.gauge s.tables Q) (calm : s.Calm)
    (refused : (Task.unit tell w).refusal? s = some e) : E (.refused e) := by
  have ended : s.Ended E Q (s.unit tell w).1 (s.unit tell w).2 := s.unit_ended runs calm.honest
  change (match (s.unit tell w).1 with
    | .error (.refused e) => some e
    | _ => none) = some e at refused
  split at refused
  · rename_i stopped
    cases refused
    exact (ended.refusal _ stopped).2 calm
  · cases refused

-- No call on a calm server is refused for the row that it would write.
theorem RewardCall.balanced {s : Server} (c : RewardCall) (calm : s.Calm)
    (accounted : s.tables.Accounted) (filed : s.tables.Filed g)
    (exact : ∀ p, c.Leads s.tables p → p.Fits) (context : String) :
    c.refusal? s ≠ some (.storage context (.checkViolation "referral_earnings_balance_check")) := by
  intro refused
  cases c with
  | track referrer referee bonus =>
    unfold refusal? Rewards.track at refused
    dsimp only at refused
    split at refused
    · cases refused
    · rename_i others
      split at refused
      · cases refused
      · rename_i positive
        exact Task.unit_refusal (Rewards.trackIn_balanced accounted filed others positive exact) calm
          refused ⟨context, rfl⟩
  | request policy user amount =>
    unfold refusal? Rewards.request at refused
    dsimp only at refused
    split at refused
    · cases refused
    · rename_i positive
      split at refused
      · cases refused
      · rename_i enough
        exact Task.unit_refusal (Rewards.requestIn_balanced accounted filed positive enough exact) calm
          refused ⟨context, rfl⟩
  | update number status =>
    exact Task.unit_refusal (Rewards.updateIn_balanced accounted filed exact) calm refused
      ⟨context, rfl⟩

-- What the row of a user says.
structure Tables.Accounts (t : Tables) (user : Int) (e : Earnings) : Prop where
  earned : e.totalEarned.value = t.bonuses user
  withdrawn : e.withdrawn.value = t.requested user [.completed]
  inFlight : ∃ d, e.inFlight = .ok d ∧ d.value = t.requested user [.pending, .approved]
  available : e.available.value =
    t.bonuses user - t.requested user [.completed] - t.requested user [.pending, .approved]
  covered : 0 ≤ e.available

theorem Tables.Accounted.accounts {t : Tables} (accounted : t.Accounted) (exact : t.Exact) (user : Int)
    (moment : Instant) : t.Accounts user (t.lockedEarnings user moment) := by
  obtain ⟨row, covered⟩ := accounted user moment
  have available := congrArg Purse.available row
  obtain ⟨d, worked, amount⟩ := Earnings.inFlight_exact (e := t.lockedEarnings user moment)
    (row ▸ exact user)
  refine ⟨congrArg Purse.earned row, congrArg Purse.withdrawn row, ⟨d, worked, ?_⟩, ?_, ?_⟩
  · rw [amount, row, t.purse_inFlight]
  · refine available.trans ?_
    rw [purse, requested_split]
    ring
  · rw [Decimal.le_iff_value, Decimal.value_zero]
    exact le_of_le_of_eq covered available.symm

def Decimal.InCents (d : Decimal) : Prop := d.negative = false ∧ d.scale = 2

-- Bonuses and requests in cents, and not too many of them.
structure Tables.InCents (t : Tables) : Prop where
  bonuses : ∀ r ∈ t.referrals, r.bonus.InCents
  amounts : ∀ w ∈ t.withdrawals, w.amount.InCents
  earned : (t.referrals.map (·.bonus.magnitude)).sum < 2 ^ 96
  asked : (t.withdrawals.map (·.amount.magnitude)).sum < 2 ^ 96

instance (d : Decimal) : Decidable d.InCents :=
  inferInstanceAs (Decidable (d.negative = false ∧ d.scale = 2))

instance (t : Tables) : Decidable t.InCents :=
  decidable_of_iff ((∀ r ∈ t.referrals, r.bonus.InCents) ∧ (∀ w ∈ t.withdrawals, w.amount.InCents) ∧
      (t.referrals.map (·.bonus.magnitude)).sum < 2 ^ 96 ∧
      (t.withdrawals.map (·.amount.magnitude)).sum < 2 ^ 96)
    ⟨fun ⟨bonuses, amounts, earned, asked⟩ => ⟨bonuses, amounts, earned, asked⟩,
      fun cents => ⟨cents.bonuses, cents.amounts, cents.earned, cents.asked⟩⟩

namespace Decimal

theorem InCents.value {d : Decimal} (cents : d.InCents) : d.value = d.magnitude / 100 := by
  rw [value_eq_magnitude, cents.1, cents.2]
  norm_num

theorem fits_cents {n : Int} (small : n.natAbs < 2 ^ 96) : Fits (n / 100) := by
  refine ⟨⟨decide (n < 0), n.natAbs, 2, small, by decide⟩, ?_⟩
  have units : (⟨decide (n < 0), n.natAbs, 2, small, by decide⟩ : Decimal).units = n := by
    unfold Decimal.units
    by_cases below : n < 0
    · simp only [below, decide_true, if_true]
      omega
    · simp only [below, decide_false, Bool.false_eq_true, if_false]
      omega
  rw [Decimal.value, units]
  norm_num

end Decimal

theorem sum_in_cents {f : α → ℚ} {m : α → Nat} (rows : List α)
    (each : ∀ x ∈ rows, f x = 0 ∨ f x = m x / 100) :
    ∃ n : Nat, n ≤ (rows.map m).sum ∧ (rows.map f).sum = n / 100 := by
  induction rows with
  | nil => exact ⟨0, Nat.le_refl _, by simp⟩
  | cons head rest ih =>
    obtain ⟨n, low, same⟩ := ih fun x mem => each x (List.mem_cons_of_mem _ mem)
    rcases each head List.mem_cons_self with none | some
    · refine ⟨n, ?_, ?_⟩
      · rw [List.map_cons, List.sum_cons]
        omega
      · rw [List.map_cons, List.sum_cons, none, same, zero_add]
    · refine ⟨m head + n, ?_, ?_⟩
      · rw [List.map_cons, List.sum_cons]
        omega
      · rw [List.map_cons, List.sum_cons, some, same]
        push_cast
        ring

theorem Tables.InCents.exact {t : Tables} (cents : t.InCents) : t.Exact := by
  intro user
  have asked (statuses : List WithdrawalStatus) :
      ∃ n : Nat, n < 2 ^ 96 ∧ t.requested user statuses = n / 100 := by
    obtain ⟨n, low, same⟩ := sum_in_cents (f := (·.share user statuses)) (m := (·.amount.magnitude))
      t.withdrawals fun w mem => by
        unfold Withdrawal.share
        split
        · exact .inr (cents.amounts w mem).value
        · exact .inl rfl
    exact ⟨n, Nat.lt_of_le_of_lt low cents.asked, same⟩
  obtain ⟨earned, small, bonuses⟩ : ∃ n : Nat, n < 2 ^ 96 ∧ t.bonuses user = n / 100 := by
    obtain ⟨n, low, same⟩ := sum_in_cents (f := (·.share user)) (m := (·.bonus.magnitude))
      t.referrals fun r mem => by
        unfold Referral.share
        split
        · exact .inr (cents.bonuses r mem).value
        · exact .inl rfl
    exact ⟨n, Nat.lt_of_le_of_lt low cents.earned, same⟩
  obtain ⟨all, few, taken⟩ := asked [.pending, .approved, .completed]
  obtain ⟨done, fewer, paid⟩ := asked [.completed]
  have fits {q : ℚ} (n : Int) (same : q = n / 100) (small : n.natAbs < 2 ^ 96) : Decimal.Fits q :=
    same ▸ Decimal.fits_cents small
  have purse : t.purse user = ⟨earned / 100, earned / 100 - all / 100, done / 100⟩ := by
    rw [Tables.purse, bonuses, taken, paid]
  rw [purse]
  refine ⟨fits earned (by push_cast; rfl) (by omega), fits (earned - all) ?_ (by omega),
    fits done (by push_cast; rfl) (by omega), fits all ?_ (by omega), fits (all - done) ?_ (by omega)⟩
  · push_cast
    ring
  · simp only [Purse.taken]
    push_cast
    ring
  · simp only [Purse.inFlight, Purse.taken]
    push_cast
    ring

namespace World

variable {w : World}

def Exact (w : World) (e : Event) : Prop := (w.take e).server.tables.Exact

theorem Sound.accounted (sound : w.Sound) (filed : w.server.tables.Filed w.server.gauge)
    (accounted : w.server.tables.Accounted) (events : List Event)
    (apart : (w.after events).server.gauge.Apart Supply.withdrawal) (exact : w.Always Exact events) :
    (w.after events).server.tables.Accounted := by
  induction events generalizing w with
  | nil => exact accounted
  | cons e rest ih =>
    obtain ⟨later, step⟩ := sound.step e
    have far := apart.before ((sound.take e).1.issued rest)
    refine ih (sound.take e).1 (filed.step far later step) ?_ apart exact.2
    exact accounted.step filed far later exact.1 step

theorem Always.last (exact : w.Always Exact events) (start : w.server.tables.Exact) :
    (w.after events).server.tables.Exact := by
  induction events generalizing w with
  | nil => exact start
  | cons e rest ih => exact ih exact.2 exact.1

-- In every state of every run, the earnings of each user account for every referral and every
-- request, and no call is refused because the row that it would write does not add up.
theorem run_accounted (events : List Event) (apart : (run events).server.gauge.Apart Supply.withdrawal)
    (exact : start.Always Exact events) :
    (∀ user moment, (run events).server.tables.Accounts user
      ((run events).server.tables.lockedEarnings user moment)) ∧
    ∀ (c : RewardCall) (s : Server), s.Calm → s.tables = (run events).server.tables →
      (∀ p, c.Leads s.tables p → p.Fits) → ∀ context,
        c.refusal? s ≠ some (.storage context (.checkViolation "referral_earnings_balance_check")) := by
  have accounted : (run events).server.tables.Accounted :=
    Sound.start.accounted (.empty _) .empty events apart exact
  have nothing : start.server.tables.InCents := by decide
  refine ⟨accounted.accounts (exact.last nothing.exact), fun c s calm same fits context => ?_⟩
  refine c.balanced calm (same ▸ accounted) (g := (run events).server.gauge) ?_ fits context
  rw [same]
  exact run_filed events apart

theorem Always.mono {P Q : World → Event → Prop} (always : w.Always P events)
    (weaker : ∀ w e, P w e → Q w e) : w.Always Q events := by
  induction events generalizing w with
  | nil => trivial
  | cons e rest ih => exact ⟨weaker w e always.1, ih always.2⟩

def accountEvents : List Event :=
  [.begin (.openWallet 7 .ngn .personal), .advance 0,
    .begin (.trackReferral 7 8 (.ofCents 2200000 (by decide))), .advance 1,
    .begin (.trackReferral 7 9 (.ofCents 3800000 (by decide))), .advance 2,
    .begin (.requestWithdrawal .standard 7 (.ofCents 1000000 (by decide))), .advance 3,
    .begin (.requestWithdrawal .standard 7 (.ofCents 1200000 (by decide))), .advance 4,
    .begin (.requestWithdrawal .standard 7 (.ofCents 1700000 (by decide))), .advance 5,
    .begin (.updateWithdrawal (Supply.withdrawal ⟨3⟩) .completed), .advance 6,
    .begin (.updateWithdrawal (Supply.withdrawal ⟨4⟩) .rejected), .advance 7,
    .begin (.updateWithdrawal (Supply.withdrawal ⟨5⟩) .approved), .advance 8]

theorem run_accounted_mixed : ∃ e, (run accountEvents).server.tables.earnings? 7 = some e ∧
    e.totalEarned.magnitude = 6000000 ∧ e.available.magnitude = 3300000 ∧
    e.withdrawn.magnitude = 1000000 ∧ (run accountEvents).server.tables.Accounts 7 e := by
  have cents : start.Always (fun w e => (w.take e).server.tables.InCents) accountEvents := by
    decide +kernel
  have accounts := (run_accounted accountEvents (Gauge.apart_withdrawal (by decide +kernel))
    (cents.mono fun _ _ => Tables.InCents.exact)).1 7 Server.epoch
  exact ⟨_, rfl, rfl, rfl, rfl, accounts⟩

end World
end Treasury
