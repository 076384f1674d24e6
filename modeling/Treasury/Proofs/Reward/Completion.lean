import Treasury.Proofs.Reward.Consistency
import Treasury.Proofs.Reward.Keys

namespace Treasury

open Ledger

def Tables.Housed (t : Tables) : Prop :=
  ∀ w ∈ t.withdrawals, ∃ v, t.wallet? w.walletId = some v

-- A step asks for no withdrawal but to a wallet of the user.
theorem Step.goes_to (step : Step g t g' t') (mem : w ∈ t'.withdrawals) :
    (∃ old ∈ t.withdrawals, old.walletId = w.walletId) ∨ ∃ v, t.wallet? w.walletId = some v := by
  have kept (rows : t'.withdrawals = t.withdrawals) :
      (∃ old ∈ t.withdrawals, old.walletId = w.walletId) ∨ ∃ v, t.wallet? w.walletId = some v :=
    .inl ⟨w, rows ▸ mem, rfl⟩
  cases step with
  | settle c settles =>
    cases settles with
    | touched => exact kept rfl
    | decided _ _ _ _ books =>
      apply kept
      rw [Tables.withChanged, books.frame]
  | change change =>
    cases change with
    | created created =>
      apply kept
      rw [created.frame]
    | referred r =>
      apply kept
      rw [Tables.withLocked_frame]
      rfl
    | requested _ _ _ _ _ _ settles =>
      rw [Tables.withLocked_frame] at mem
      rcases Rows.mem_put mem with rfl | ⟨old, _⟩
      · have there := Rows.find?_none.not.mpr
          (not_not_intro (List.mem_map_of_mem (f := Wallet.id) (List.mem_of_find?_eq_some settles)))
        exact .inr (Option.ne_none_iff_exists'.mp there)
      · exact .inl ⟨w, old, rfl⟩
    | decided _ _ _ carries =>
      rw [carries.rows] at mem
      rcases Rows.mem_amend.mp mem with ⟨old, _⟩ | ⟨old, there, _, rfl⟩
      · exact .inl ⟨w, old, rfl⟩
      · exact .inl ⟨old, there, rfl⟩
    | _ => exact kept rfl

theorem Tables.Housed.step {t t' : Tables} (housed : t.Housed) (later : t.Later t')
    (step : Step g t g' t') : t'.Housed := by
  intro w mem
  have there : ∃ v, t.wallet? w.walletId = some v := by
    rcases step.goes_to mem with ⟨old, before, same⟩ | there
    · exact same ▸ housed old before
    · exact there
  obtain ⟨v, stored⟩ := there
  have held := later.held w.walletId v.currency ((Tables.heldIn_iff stored).mpr rfl)
  obtain ⟨v', stored', _⟩ := Option.map_eq_some_iff.mp held
  exact ⟨v', stored'⟩

theorem Movement.credit_ok {v : Wallet} (unclosed : v.status ≠ .closed) (positive : ¬ amount ≤ 0)
    (sum : v.balance.add amount = .ok balance) (settlement : Decimal) :
    Movement.credit v amount settlement = .ok ⟨v, amount, settlement, balance⟩ := by
  have open_ : v.canCredit = true := by simpa [Wallet.canCredit] using unclosed
  rw [Movement.credit, Movement.refund, open_, if_neg positive, sum]
  rfl

-- How the key of a payout is refused that somebody has taken before.
def Rewards.keyTaken (w : Withdrawal) : RewardError :=
  .storage ("pay out withdrawal request " ++ toString w.id)
    (.uniqueViolation "transactions_idempotency_key_key")

-- What a withdrawal meets that is paid into a wallet.
structure Withdrawal.Payable (w : Withdrawal) (v : Wallet) (balance : Decimal) : Prop where
  positive : ¬ w.amount ≤ 0
  unclosed : v.status ≠ .closed
  sum : v.balance.add w.amount = .ok balance
  above : ¬ balance < 0

namespace Work.Stages

variable {E : Halt RewardError → Prop} {g : Gauge} {t : Tables} {w : Withdrawal} {v : Wallet}

-- Nothing refuses a payout but the key.
theorem payOut_payable {Q : TransactionId → Gauge → Tables → Prop}
    (stored : t.wallet? w.walletId = some v) (payable : w.Payable v balance)
    (free : t.transactionOf? w.id.payoutKey = none → ∀ now r g' t',
      r = { (Rewards.payoutDraft w v).toTransaction r.id now with status := .succeeded } →
      Created g t g' r (payoutLegs v w.amount) t' → Q r.id g' t')
    (taken : t.transactionOf? w.id.payoutKey ≠ none → E (.refused (Rewards.keyTaken w))) :
    (Rewards.payOut w).Stages E g t Q := by
  have made := Movement.credit_ok payable.unclosed payable.positive payable.sum w.amount
  refine bind (told (read (bind (found (fun v' stored' => ?_) fun missing => ?_))))
  · cases stored.symm.trans stored'
    refine bind (now (bind (issue (bind (told (insertTransaction (fun keys => ?_) ?_))))))
    · refine bind (told (counterparty rfl fun _ g₁ t₁ later paid => ?_))
      refine bind (told (credit ?_ (fun _ g₂ t₂ latest landed => ?_) (fun h failed => ?_) ?_))
      · rw [paid.wallet?_other nofun, Rows.key_of_find? stored]
        exact stored
      · refine bind (report (pure (free (keys _ rfl) _ _ g₂ t₂ rfl ?_)))
        exact ⟨.next (Nat.le_trans later latest), keys, .payout w stored rfl, .cons paid (.one landed)⟩
      · cases made.symm.trans failed
      · intro m makes short
        cases made.symm.trans (Option.some.inj makes)
        exact absurd short payable.above
    · intro key keyed held
      cases keyed
      exact taken held
  · cases stored.symm.trans missing

theorem carryOut_payable {Q : Earnings × Option TransactionId → Gauge → Tables → Prop} {e : Earnings}
    (stored : t.wallet? w.walletId = some v) (payable : w.Payable v balance)
    (sum : e.withdrawn.add w.amount = .ok withdrawn)
    (free : t.transactionOf? w.id.payoutKey = none → ∀ id g' t',
      CarriesOut g t g' w e .completed { e with withdrawn } (some id) t' →
      Q ({ e with withdrawn }, some id) g' t')
    (taken : t.transactionOf? w.id.payoutKey ≠ none → E (.refused (Rewards.keyTaken w))) :
    (Rewards.carryOut w .completed e).Stages E g t Q := by
  refine bind (payOut_payable stored payable (fun unused now r g' t' shape created => ?_) taken)
  refine bind (exactly (fun total same => ?_) fun _ failed => ?_)
  · cases sum.symm.trans same
    exact pure (free unused r.id g' t' (.completed stored shape created sum))
  · cases sum.symm.trans failed

end Work.Stages

theorem Tables.InCents.decided {t : Tables} (cents : t.InCents) (filed : t.Filed g)
    (mem : w ∈ t.withdrawals) (moves : w.status.canBecome status = true) :
    ((t.purse w.userId).decides w.amount.value status).Fits := by
  have stored := filed.found mem
  have after := purse_decided (t.withDecided w.id status none w.updatedAt) filed stored moves rfl rfl
    w.userId
  rw [if_pos rfl] at after
  rw [← after]
  apply InCents.exact
  refine ⟨cents.bonuses, ?_, cents.earned, ?_⟩
  · intro x there
    rcases filed.decided stored there with old | rfl
    · exact cents.amounts x old
    · exact cents.amounts w mem
  · have amounts : (t.withDecided w.id status none w.updatedAt).withdrawals.map (·.amount.magnitude) =
        t.withdrawals.map (·.amount.magnitude) := Rows.map_amend fun _ _ => rfl
    rw [amounts]
    exact cents.asked

namespace Rewards

-- What the completion of a withdrawal answers and leaves in its place.
def Completes (w : Withdrawal) (answer : Withdrawal) (t : Tables) : Prop :=
  ∃ id now written,
    answer = { w with status := .completed, transactionId := some id, updatedAt := now } ∧
    t.withdrawal? w.id =
      some { w with status := .completed, transactionId := some id, updatedAt := written }

theorem updateIn_payable {g g₀ : Gauge} {t : Tables} {w : Withdrawal} {v : Wallet}
    (accounted : t.Accounted) (filed : t.Filed g₀) (mem : w ∈ t.withdrawals)
    (moves : w.status.canBecome .completed = true) (stored : t.wallet? w.walletId = some v)
    (payable : w.Payable v balance)
    (fits : ((t.purse w.userId).decides w.amount.value .completed).Fits) :
    (updateIn w.id .completed (.storage context)).Runs
      (fun h => t.transactionOf? w.id.payoutKey ≠ none ∧ h = .refused (keyTaken w)) g t
      fun answer _ p => t.transactionOf? w.id.payoutKey = none ∧
        ∃ t', p = some t' ∧ Completes w answer t' := by
  have request := filed.found mem
  refine .bind (.told (.read (.bind (.found (fun w' there => ?_) fun missing => ?_))))
  · cases request.symm.trans there
    have waits : w.status ≠ .completed := by
      intro done
      rw [done] at moves
      cases moves
    rw [if_neg waits, moves]
    refine .bind (.lockRewards fun g₁ _ => ?_)
    obtain ⟨row, covered⟩ := accounted w.userId g.clock
    have locks := Tables.SameBooks.withLocked (t := t) w.userId g.clock
    have keys : (t.withLocked w.userId g.clock).transactionOf? w.id.payoutKey =
        t.transactionOf? w.id.payoutKey := by
      rw [Tables.transactionOf?, locks.transactions]
      rfl
    rw [← row] at fits
    obtain ⟨withdrawn, sum, _⟩ := Decimal.add_exact fits.withdrawn
    rw [← keys]
    refine .bind (.carryOut_payable ?_ payable sum
      (fun free id g₂ t₁ carries => ?_) fun taken => ⟨taken, rfl⟩)
    · rw [Tables.wallet?, locks.wallets]
      exact stored
    · refine .bind (.writeEarnings (fun e' _ _ => ?_) fun h inconsistent => ?_)
      · have rows : t₁.withdrawals = t.withdrawals := by
          rw [carries.frame, Tables.withLocked_frame]
        have kept : (t₁.withEarnings e').withdrawal? w.id = some w := by
          rw [Tables.withdrawal?, Tables.withEarnings, rows]
          exact request
        refine .bind (.told (.updateWithdrawalRequest (fun _ _ => ?_) fun missing => ?_))
        · refine .after (.told (.commit (.report_then (.now_then (.pure ?_)))))
          exact ⟨free, _, rfl, id, _, g₂.clock.next, rfl, Rows.find?_amend_same (fun _ _ => rfl) kept⟩
        · cases kept.symm.trans missing
      · have above := Decimal.value_pos payable.positive
        refine absurd (fits.consistent ?_ (Purse.decides_available ?_ (le_of_lt above) .completed) ?_)
          inconsistent
        · have shown := carries.exact fits
          exact shown
        · rw [row]
          exact covered
        · rw [row]
          exact Tables.decides_inFlight filed request moves
  · cases request.symm.trans missing

def complete (w : Withdrawal) (s : Server) : Except (Halt RewardError) Withdrawal × Server :=
  (update w.id .completed).run.runAlone World.silence s

end Rewards

namespace World

theorem run_housed (events : List Event) (distinct : (run events).server.gauge.Distinct) :
    (run events).server.tables.Housed := by
  apply run_induct events distinct nofun
  intro g t g' t' orderly next later step housed
  exact housed.step (Tables.Later.step orderly next later step) step

theorem payable_of_run (events : List Event) (distinct : (run events).server.gauge.Distinct)
    (apart : (run events).server.gauge.Apart Supply.withdrawal) (w : Withdrawal)
    (mem : w ∈ (run events).server.tables.withdrawals)
    (takes : ∀ v, (run events).server.tables.wallet? w.walletId = some v →
      v.status ≠ .closed ∧ ∃ balance, v.balance.add w.amount = .ok balance) :
    ∃ v balance, (run events).server.tables.wallet? w.walletId = some v ∧ w.Payable v balance := by
  obtain ⟨v, stored⟩ := run_housed events distinct w mem
  obtain ⟨unclosed, balance, sum⟩ := takes v stored
  have positive := (run_filed events apart).positive w mem
  have covered := ((run_balanced events).backed (Rows.mem_of_find? stored)).covered
  have amount : ¬ w.amount < 0 := by
    rw [Decimal.lt_iff_value, Decimal.value_zero]
    exact not_lt_of_gt (Decimal.value_pos positive)
  exact ⟨v, balance, stored, positive, unclosed, sum, Decimal.add_not_neg covered amount sum⟩

-- In every state of every run in which no earnings were rounded, a withdrawal that waits can be
-- completed where its wallet is not closed and the key of its payout is free. The key is free unless
-- a client came with it, and then the completion is refused and changes nothing.
theorem run_payable (events : List Event) (distinct : (run events).server.gauge.Distinct)
    (apart : (run events).server.gauge.Apart Supply.withdrawal) (exact : start.Always Exact events)
    (w : Withdrawal) (mem : w ∈ (run events).server.tables.withdrawals)
    (waits : w.status = .pending ∨ w.status = .approved)
    (takes : ∀ v, (run events).server.tables.wallet? w.walletId = some v →
      v.status ≠ .closed ∧ ∃ balance, v.balance.add w.amount = .ok balance)
    (fits : (((run events).server.tables.purse w.userId).decides w.amount.value .completed).Fits)
    (s : Server) (calm : s.Calm) (same : s.tables = (run events).server.tables) :
    (s.tables.transactionOf? w.id.payoutKey = none →
      ∃ answer, (Rewards.complete w s).1 = .ok answer ∧
        Rewards.Completes w answer (Rewards.complete w s).2.tables) ∧
    (s.tables.transactionOf? w.id.payoutKey ≠ none →
      (Rewards.complete w s).1 = .error (.refused (Rewards.keyTaken w)) ∧
        (Rewards.complete w s).2.tables = s.tables ∧
        ∃ operation ∈ begun events, operation.key? = some w.id.payoutKey) := by
  obtain ⟨v, balance, stored, payable⟩ := payable_of_run events distinct apart w mem takes
  have accounted : (run events).server.tables.Accounted :=
    Sound.start.accounted (.empty _) .empty events apart exact
  have moves : w.status.canBecome .completed = true := by
    rcases waits with waits | waits <;> rw [waits] <;> rfl
  have ends : s.Ended _ _ (Rewards.complete w s).1 (Rewards.complete w s).2 :=
    s.unit_ended (Rewards.updateIn_payable (same ▸ accounted) (same ▸ run_filed events apart)
      (same ▸ mem) moves (same ▸ stored) payable (same ▸ fits)) calm.honest
  refine ⟨?_, ?_⟩
  · intro free
    rcases result : (Rewards.complete w s).1 with h | answer
    · exact absurd free ((ends.refusal h result).2 calm).1
    · obtain ⟨_, ⟨_, t', rfl, completes⟩, tables⟩ := ends.answer answer result
      refine ⟨answer, rfl, ?_⟩
      rw [tables]
      exact completes
  · intro taken
    rcases result : (Rewards.complete w s).1 with h | answer
    · obtain ⟨kept, allowed⟩ := ends.refusal h result
      obtain ⟨_, refused⟩ := allowed calm
      refine ⟨by rw [refused], kept, ?_⟩
      rw [same] at taken
      obtain ⟨r, held⟩ := Option.ne_none_iff_exists'.mp taken
      rcases payoutKey_taken events distinct apart w mem held with done | asked
      · rcases waits with waits | waits <;> cases waits.symm.trans done
      · exact asked
    · obtain ⟨_, ⟨free, _⟩, _⟩ := ends.answer answer result
      exact absurd free taken

-- A user earns 20000.00 and asks for 15000.00 of it.
def requestedEvents : List Event := withdrawalEvents.take 6

theorem run_payable_requested : ∃ w, (run requestedEvents).server.tables.withdrawals = [w] ∧
    ∃ answer, (Rewards.complete w (run requestedEvents).server).1 = .ok answer ∧
      Rewards.Completes w answer (Rewards.complete w (run requestedEvents).server).2.tables := by
  obtain ⟨w, v, rows, waits, stored, status, sum, free⟩ :
      ∃ w v, (run requestedEvents).server.tables.withdrawals = [w] ∧ w.status = .pending ∧
        (run requestedEvents).server.tables.wallet? w.walletId = some v ∧ v.status = .active ∧
        v.balance.add w.amount = .ok w.amount ∧
        (run requestedEvents).server.tables.transactionOf? w.id.payoutKey = none :=
    ⟨_, _, rfl, rfl, rfl, rfl, rfl, by decide +kernel⟩
  have cents : start.Always (fun w e => (w.take e).server.tables.InCents) requestedEvents := by
    decide +kernel
  have last : (run requestedEvents).server.tables.InCents := by decide +kernel
  have apart : (run requestedEvents).server.gauge.Apart Supply.withdrawal :=
    Gauge.apart_withdrawal (by decide +kernel)
  have mem : w ∈ (run requestedEvents).server.tables.withdrawals := by
    rw [rows]
    exact List.mem_singleton_self w
  have moves : w.status.canBecome .completed = true := by
    rw [waits]
    rfl
  have takes : ∀ v, (run requestedEvents).server.tables.wallet? w.walletId = some v →
      v.status ≠ .closed ∧ ∃ balance, v.balance.add w.amount = .ok balance := by
    intro v' stored'
    cases stored.symm.trans stored'
    exact ⟨by rw [status]; nofun, w.amount, sum⟩
  have completed := run_payable requestedEvents (Gauge.distinct_of_le (by decide +kernel)) apart
    (cents.mono fun _ _ => Tables.InCents.exact) w mem (.inl waits) takes
    (last.decided (run_filed _ apart) mem moves) (run requestedEvents).server ⟨rfl, rfl, rfl⟩ rfl
  exact ⟨w, rows, completed.1 free⟩

-- Out of an amount as great as decimals get, 10000.4 are requested. What is left is rounded to a
-- whole number, and the row does not add up once the 10000.4 are paid out.
def roundedEvents : List Event :=
  [.begin (.openWallet 7 .ngn .personal), .advance 0,
    .begin (.trackReferral 7 8
      { Decimal.zero with magnitude := 79228162514264337593543950334, magnitude_lt := by decide }),
    .advance 1,
    .begin (.requestWithdrawal .standard 7 ⟨false, 100004, 1, by decide, by decide⟩), .advance 2]

example : ∃ w, (run roundedEvents).server.tables.withdrawals = [w] ∧
    (Rewards.complete w (run roundedEvents).server).1 = .error (.refused (.storage
      ("update withdrawal request " ++ toString w.id)
      (.checkViolation "referral_earnings_balance_check"))) :=
  ⟨_, rfl, by decide +kernel⟩

-- Then a client makes a deposit under the key of the payout.
def forestalledEvents : List Event :=
  requestedEvents ++
    [.begin (.deposit ⟨some (Supply.withdrawal ⟨2⟩).payoutKey, Supply.wallet ⟨0⟩, .ngn,
        .ofCents 100 (by decide), "bank", ""⟩), .advance 3]

theorem forestalled_refused : ¬ ∀ (events : List Event) (w : Withdrawal) (s : Server),
    (run events).server.gauge.Distinct → (run events).server.gauge.Apart Supply.withdrawal →
    start.Always Exact events → w ∈ (run events).server.tables.withdrawals →
    w.status = .pending ∨ w.status = .approved →
    (∀ v, (run events).server.tables.wallet? w.walletId = some v →
      v.status ≠ .closed ∧ ∃ balance, v.balance.add w.amount = .ok balance) →
    (((run events).server.tables.purse w.userId).decides w.amount.value .completed).Fits →
    s.Calm → s.tables = (run events).server.tables →
    ∃ answer, (Rewards.complete w s).1 = .ok answer := by
  intro always
  obtain ⟨w, v, mem, waits, stored, status, sum, refused⟩ :
      ∃ w v, w ∈ (run forestalledEvents).server.tables.withdrawals ∧ w.status = .pending ∧
        (run forestalledEvents).server.tables.wallet? w.walletId = some v ∧ v.status = .active ∧
        v.balance.add w.amount = .ok (.ofCents 1500100 (by decide)) ∧
        (Rewards.complete w (run forestalledEvents).server).1 =
          .error (.refused (Rewards.keyTaken w)) :=
    ⟨_, _, List.mem_singleton_self _, rfl, rfl, rfl, rfl, by decide +kernel⟩
  have cents : start.Always (fun w e => (w.take e).server.tables.InCents) forestalledEvents := by
    decide +kernel
  have last : (run forestalledEvents).server.tables.InCents := by decide +kernel
  have apart : (run forestalledEvents).server.gauge.Apart Supply.withdrawal :=
    Gauge.apart_withdrawal (by decide +kernel)
  have moves : w.status.canBecome .completed = true := by
    rw [waits]
    rfl
  have takes : ∀ v, (run forestalledEvents).server.tables.wallet? w.walletId = some v →
      v.status ≠ .closed ∧ ∃ balance, v.balance.add w.amount = .ok balance := by
    intro v' stored'
    cases stored.symm.trans stored'
    exact ⟨by rw [status]; nofun, _, sum⟩
  obtain ⟨answer, completed⟩ := always forestalledEvents w (run forestalledEvents).server
    (Gauge.distinct_of_le (by decide +kernel)) apart (cents.mono fun _ _ => Tables.InCents.exact) mem
    (.inl waits) takes (last.decided (run_filed _ apart) mem moves) ⟨rfl, rfl, rfl⟩ rfl
  cases refused.symm.trans completed

end World
end Treasury
