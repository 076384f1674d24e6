import Treasury.Settings.Basic
import Treasury.Proofs.Settlement.Once
import Treasury.Proofs.Service.Ensures
import Treasury.Proofs.Time.Instant

namespace Treasury

theorem Task.now_then (f : Instant → Task ε α) (answer : {β : Type} → Question β → β) (s : Server) :
    (Task.now >>= f).run.runAlone answer s = (f s.clock).run.runAlone answer s.now.2 := rfl

namespace Reconciliation

-- The milliseconds that a cutoff lies before the moment it is taken at.
def Plan.span (plan : Plan) : Int := Int.bmod plan.staleAfter UInt64.size

theorem Plan.span_exact {plan : Plan} (fits : plan.staleAfter < 2 ^ 63) :
    plan.span = plan.staleAfter := by
  apply Int.bmod_eq_of_le
  · change -(9223372036854775808 : Int) ≤ plan.staleAfter
    omega
  · change (plan.staleAfter : Int) < 9223372036854775808
    omega

theorem Plan.cutoff_eq {plan : Plan} (cut : plan.cutoff now = .ok moment) :
    moment = now.minusMillis plan.span := by
  unfold cutoff at cut
  dsimp only at cut
  split at cut
  · cases cut
  · cases there : now.minusMillis? (Int.bmod plan.staleAfter UInt64.size) with
    | none =>
      rw [there] at cut
      cases cut
    | some t =>
      rw [there] at cut
      cases cut
      exact Instant.minusMillis?_eq there

theorem Plan.cutoff_before_iff {plan : Plan} (cut : plan.cutoff now = .ok moment) :
    moment < now.minusMillis ms ↔ ms < plan.span := by
  rw [plan.cutoff_eq cut, Instant.minusMillis_lt_iff]

def selection (plan : Plan) (now : Instant) : Task TransactionError (List Transaction) := do
  let cutoff ← Task.settled (plan.cutoff now)
  let refuse := TransactionError.storage "scan stale transactions"
  Task.unit refuse
    ((Store.findStaleTransactions [.pending, .unknown] cutoff plan.batchSize).told refuse)

theorem scan_eq (plan : Plan) : scan plan = Task.now >>= selection plan := rfl

theorem mem_stale {t : Tables} (mem : r ∈ t.stale statuses olderThan limit) :
    r ∈ t.transactions ∧ r.status ∈ statuses ∧ r.updatedAt < olderThan := by
  have sorted := List.mem_mergeSort.mp (List.mem_of_mem_take mem)
  simpa using sorted

theorem stale_single {t : Tables} (only : (t.transactions.filter fun r =>
    statuses.contains r.status && decide (r.updatedAt < olderThan)) = [r]) :
    t.stale statuses olderThan (limit + 1) = [r] := by
  rw [Tables.stale, only, List.mergeSort_singleton, List.take_succ_cons, List.take_nil]

theorem findStale_runs (refuse : StoreError → TransactionError) (cutoff : Instant) (limit : Nat)
    (g : Gauge) (t : Tables) :
    ((Store.findStaleTransactions [.pending, .unknown] cutoff limit).told refuse).Runs
      (fun _ => False) g t fun batch _ p =>
        p = none ∧ batch = t.stale [.pending, .unknown] cutoff limit :=
  .keep (.told (.read ⟨rfl, rfl⟩))

theorem findStale_acts (refuse : StoreError → TransactionError) (cutoff : Instant) (limit : Nat) :
    (Task.unit refuse
      ((Store.findStaleTransactions [.pending, .unknown] cutoff limit).told refuse)).Acts
      (fun _ _ _ => False) fun _ t batch _ p =>
        p = none ∧ batch = t.stale [.pending, .unknown] cutoff limit :=
  .unit (findStale_runs refuse cutoff limit)

theorem findStale_alone (tell : StoreError → TransactionError) (cutoff : Instant) (limit : Nat)
    {s : Server} (honest : s.Honest) :
    (Task.unit tell ((Store.findStaleTransactions [.pending, .unknown] cutoff limit).told tell)).Alone s
      (fun _ _ _ => ¬ s.Calm) fun batch _ _ => batch = s.tables.stale [.pending, .unknown] cutoff limit :=
  .acts (findStale_acts tell cutoff limit) honest (fun _ _ _ _ found _ => found.2)
    fun _ _ _ struck calm => struck calm

theorem selection_found {plan : Plan} {s : Server} (honest : s.Honest)
    (answer : {β : Type} → Question β → β)
    (ran : ((selection plan now).run.runAlone answer s).1 = .ok batch) :
    ∃ cutoff, plan.cutoff now = .ok cutoff ∧
      batch = s.tables.stale [.pending, .unknown] cutoff plan.batchSize := by
  unfold selection at ran
  -- Otherwise the cutoff would be computed.
  generalize plan.cutoff now = limit at ran ⊢
  cases limit with
  | error reason => cases ran
  | ok cutoff => exact ⟨cutoff, rfl, (findStale_alone _ cutoff plan.batchSize honest).answered answer ran⟩

theorem selection_ran {plan : Plan} {s : Server} (calm : s.Calm)
    (answer : {β : Type} → Question β → β) (cutoff : Instant) (cut : plan.cutoff now = .ok cutoff) :
    ((selection plan now).run.runAlone answer s).1 =
      .ok (s.tables.stale [.pending, .unknown] cutoff plan.batchSize) := by
  unfold selection
  rw [cut]
  have ended := Flow.Ensures.alone (findStale_alone (.storage "scan stale transactions") cutoff
    plan.batchSize calm.honest) answer
  dsimp only at ended
  split at ended
  · rename_i batch ran
    exact ended ▸ ran
  · exact absurd calm ended

end Reconciliation

namespace Settings

open Reconciliation

theorem timeout_below {settings : Settings} (sound : settings.flaw? = none) :
    settings.settlement.providerTimeoutMs < settings.reconciliationPlan.staleAfter := by
  unfold flaw? at sound
  split_ifs at sound with _ _ short
  exact Nat.lt_of_not_le short

-- What a scan selects at a moment was last touched longer before than any provider has to answer,
-- where the waiting time is a number of 64 binary digits with a sign.
theorem selected_overdue {settings : Settings} (sound : settings.flaw? = none)
    (fits : settings.reconciliationPlan.staleAfter < 2 ^ 63) (now : Instant) {s : Server}
    (honest : s.Honest) (answer : {β : Type} → Question β → β)
    (selected : ((selection settings.reconciliationPlan now).run.runAlone answer s).1 = .ok batch) :
    scan settings.reconciliationPlan = Task.now >>= selection settings.reconciliationPlan ∧
      ∀ r ∈ batch, r ∈ s.tables.transactions ∧ (r.status = .pending ∨ r.status = .unknown) ∧
        r.updatedAt < now.minusMillis settings.settlement.providerTimeoutMs := by
  refine ⟨scan_eq _, fun r mem => ?_⟩
  obtain ⟨cutoff, cut, rfl⟩ := selection_found honest answer selected
  obtain ⟨stored, status, early⟩ := mem_stale mem
  have back : cutoff < now.minusMillis settings.settlement.providerTimeoutMs := by
    rw [Plan.cutoff_before_iff cut, Plan.span_exact fits]
    exact Int.ofNat_lt.mpr (timeout_below sound)
  exact ⟨stored, by simpa using status, early.trans back⟩

def patient (staleAfterSecs : Nat) : Settings where
  logLevel := "info"
  logDir := "./logs"
  logFile := "wallet.log"
  useJson := false
  rotation := "daily"
  postgresUrl := none
  database := .standard
  settlement := .standard
  referral := .standard
  catalogSync := .standard
  reconciliation := { ReconciliationSettings.standard with staleAfterSecs }

end Settings

namespace World

open Reconciliation

theorem run_selected_overdue :
    ∃ r, (run waitingEvents).server.tables.transactions.getLast? = some r ∧ r.status = .pending ∧
      r.updatedAt < (Instant.mk 1748779600 0).minusMillis 15000 := by
  have stale : ((selection (Settings.patient 300).reconciliationPlan ⟨1748779600, 0⟩).run.runAlone
      silence (run waitingEvents).server).1 =
        .ok (run waitingEvents).server.tables.transactions.tail := by
    rw [selection_ran ⟨rfl, rfl, rfl⟩ silence ⟨1748779300, 0⟩ (by decide +kernel)]
    exact congrArg Except.ok (stale_single rfl)
  have sound : (Settings.patient 300).flaw? = none := by decide +kernel
  have overdue := (Settings.selected_overdue sound (by decide +kernel) _
    (run_sound waitingEvents).honest silence stale).2
  exact ⟨_, rfl, rfl, (overdue _ (List.mem_singleton.mpr rfl)).2.2⟩

-- A waiting time of nearly six hundred million years is accepted. Read as a number with a sign it
-- is less than none, and a payment is selected whose provider has only just been asked.
theorem run_selected_early :
    (Settings.patient 18446744073709551).flaw? = none ∧
      ∃ batch, ((scan (Settings.patient 18446744073709551).reconciliationPlan).run.runAlone silence
          (run waitingEvents).server).1 = .ok batch ∧
        ∃ r ∈ batch, r.status = .pending ∧ ¬ r.updatedAt <
          (run waitingEvents).server.clock.minusMillis
            (Settings.patient 18446744073709551).settlement.providerTimeoutMs := by
  have ran : ((scan (Settings.patient 18446744073709551).reconciliationPlan).run.runAlone silence
      (run waitingEvents).server).1 = .ok (run waitingEvents).server.tables.transactions.tail := by
    rw [scan_eq, Task.now_then,
      selection_ran ⟨rfl, rfl, rfl⟩ silence ⟨1748779200, 616000010⟩ (by decide +kernel)]
    exact congrArg Except.ok (stale_single rfl)
  exact ⟨by decide +kernel, _, ran, _, List.mem_singleton.mpr rfl, rfl, by decide +kernel⟩

end World
end Treasury
