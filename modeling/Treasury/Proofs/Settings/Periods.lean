import Mathlib.Control.Monad.Basic
import Mathlib.Tactic.SplitIfs
import Treasury.Program

namespace Treasury

theorem Schedule.lt_nextDue (positive : 0 < interval) (due start : Nat) :
    due < nextDue interval due start := by
  unfold nextDue
  split <;> omega

theorem Tables.stale_eq_nil {t : Tables} (room : 0 < limit)
    (empty : t.stale statuses olderThan limit = []) :
    ∀ r ∈ t.transactions, r.status ∈ statuses → ¬ r.updatedAt < olderThan := by
  intro r stored status early
  have waiting : r ∈ t.transactions.filter fun r =>
      statuses.contains r.status && decide (r.updatedAt < olderThan) := by
    simp [stored, status, early]
  rw [stale, List.take_eq_nil_iff] at empty
  rcases empty with full | none
  · omega
  · rw [← List.mem_mergeSort, none] at waiting
    cases waiting

namespace Settings

variable {s : Settings} {y : Yaml} {text : String}

-- What settings are checked for.
structure Sound (s : Settings) : Prop where
  connections : 0 < s.database.maxConnections
  threshold : ¬ s.referral.withdrawalThreshold ≤ 0
  patience : s.settlement.providerTimeoutMs < s.reconciliationPlan.staleAfter
  source : s.catalogSync.enabled = true → s.catalogSync.baseUrl ≠ ""
  timeout : 0 < s.catalogSync.timeoutMs

theorem flaw?_eq_none_iff : s.flaw? = none ↔ s.Sound := by
  constructor
  · intro sound
    unfold flaw? at sound
    split_ifs at sound with connections threshold short source timeout
    exact ⟨Nat.pos_of_ne_zero connections, threshold, Nat.lt_of_not_le short,
      fun enabled empty => source ⟨enabled, empty⟩, Nat.pos_of_ne_zero timeout⟩
  · rintro ⟨connections, threshold, patience, source, timeout⟩
    unfold flaw?
    change s.settlement.providerTimeoutMs < s.reconciliation.staleAfterSecs * 1000 at patience
    rw [if_neg (Nat.ne_of_gt connections), if_neg threshold, if_neg (Nat.not_le.2 patience),
      if_neg fun both => source both.1 both.2, if_neg (Nat.ne_of_gt timeout)]

theorem ofText_eq_ok_iff :
    ofText text = .ok s ↔ ∃ y, Yaml.ofText? text = some y ∧ ofYaml? y = some s ∧ s.Sound := by
  unfold ofText
  constructor
  · intro accepted
    split at accepted
    · cases accepted
    · rename_i read
      obtain ⟨y, document, read⟩ := Option.bind_eq_some_iff.mp read
      split at accepted
      · cases accepted
      · rename_i sound
        cases accepted
        exact ⟨y, document, read, flaw?_eq_none_iff.mp sound⟩
  · rintro ⟨y, document, read, sound⟩
    simp [document, read, flaw?_eq_none_iff.mpr sound]

def given? (place : String) (values : List String) (value : String) (y : Yaml) : Option Nat := do
  let sections ← Yaml.fields? names y
  let fields ← Yaml.fields? values (← sections.lookup place)
  Yaml.required fields value (Yaml.natBelow? UInt64.size)

def scanInterval? : Yaml → Option Nat :=
  given? "reconciliation" ["scan_interval_secs", "stale_after_secs", "batch_size"] "scan_interval_secs"

def batchSize? : Yaml → Option Nat :=
  given? "reconciliation" ["scan_interval_secs", "stale_after_secs", "batch_size"] "batch_size"

def syncInterval? : Yaml → Option Nat :=
  given? "catalog_sync"
    ["enabled", "interval_secs", "page_size", "base_url", "api_token", "timeout_ms"] "interval_secs"

theorem sections_read (read : ofYaml? y = some s) : ∃ m, Yaml.fields? names y = some m ∧
    Yaml.defaulted m "catalog_sync" .standard catalogSync? = some s.catalogSync ∧
    Yaml.defaulted m "reconciliation" .standard reconciliation? = some s.reconciliation := by
  simp only [ofYaml?, Option.bind_eq_bind, Option.bind_eq_some_iff] at read
  obtain ⟨m, fields, _, -, _, -, _, -, _, -, _, -, _, -, _, -, _, -, _, -, _, catalog, _, scan, same⟩ :=
    read
  cases same
  exact ⟨m, fields, catalog, scan⟩

theorem reconciliation_given (read : ofYaml? y = some s) :
    s.reconciliation.scanIntervalSecs = (scanInterval? y).getD 60 ∧
      s.reconciliation.batchSize = (batchSize? y).getD 100 := by
  obtain ⟨m, fields, -, scan⟩ := sections_read read
  unfold Yaml.defaulted at scan
  cases found : m.lookup "reconciliation" with
  | none =>
    rw [found] at scan
    simp [scanInterval?, batchSize?, given?, fields, found, ← Option.some.inj scan,
      ReconciliationSettings.standard]
  | some place =>
    rw [found, Option.elim_some] at scan
    simp only [reconciliation?, Option.bind_eq_bind, Option.bind_eq_some_iff] at scan
    obtain ⟨f, values, interval, readInterval, _, -, batch, readBatch, same⟩ := scan
    simp [scanInterval?, batchSize?, given?, fields, found, values, readInterval, readBatch,
      ← Option.some.inj same]

theorem catalogSync_given (read : ofYaml? y = some s) :
    s.catalogSync.intervalSecs = (syncInterval? y).getD 21600 := by
  obtain ⟨m, fields, catalog, -⟩ := sections_read read
  unfold Yaml.defaulted at catalog
  cases found : m.lookup "catalog_sync" with
  | none =>
    rw [found] at catalog
    simp [syncInterval?, given?, fields, found, ← Option.some.inj catalog, CatalogSettings.standard]
  | some place =>
    rw [found, Option.elim_some] at catalog
    simp only [catalogSync?, Option.bind_eq_bind, Option.bind_eq_some_iff] at catalog
    obtain ⟨f, values, _, -, interval, readInterval, _, -, _, -, _, -, _, -, same⟩ := catalog
    simp [syncInterval?, given?, fields, found, values, readInterval, ← Option.some.inj same]

-- The periods of what is done again and again, and room for a payment in what a scan takes.
structure Runs (s : Settings) : Prop where
  scan : 0 < s.scanIntervalMs
  sync : s.catalogSync.enabled = true → 0 < s.syncIntervalMs
  batch : 1 ≤ s.reconciliationPlan.batchSize

theorem getD_pos_iff {o : Option Nat} (standard : 0 < d) : 0 < o.getD d ↔ o ≠ some 0 := by
  cases o with
  | none => simp [standard]
  | some n => simp [Nat.pos_iff_ne_zero]

theorem runs_iff (read : ofYaml? y = some s) : s.Runs ↔
    scanInterval? y ≠ some 0 ∧ (s.catalogSync.enabled = true → syncInterval? y ≠ some 0) ∧
      batchSize? y ≠ some 0 := by
  obtain ⟨interval, batch⟩ := reconciliation_given read
  have scan : 0 < s.scanIntervalMs ↔ scanInterval? y ≠ some 0 := by
    rw [scanIntervalMs, interval, Nat.mul_pos_iff_of_pos_right (by omega), getD_pos_iff (by omega)]
  have sync : 0 < s.syncIntervalMs ↔ syncInterval? y ≠ some 0 := by
    rw [syncIntervalMs, catalogSync_given read, Nat.mul_pos_iff_of_pos_right (by omega),
      getD_pos_iff (by omega)]
  have room : 1 ≤ s.reconciliationPlan.batchSize ↔ batchSize? y ≠ some 0 := by
    rw [← getD_pos_iff (o := batchSize? y) (d := 100) (by omega), ← batch]
    rfl
  rw [← scan, ← sync, ← room]
  exact ⟨fun runs => ⟨runs.scan, runs.sync, runs.batch⟩, fun ⟨scan, sync, batch⟩ => ⟨scan, sync, batch⟩⟩

theorem Runs.due (runs : s.Runs) {job : Program.Job} (mem : job ∈ Program.jobs s) (due start : Nat) :
    due < Schedule.nextDue (job.intervalSecs s * 1000) due start := by
  refine Schedule.lt_nextDue ?_ due start
  cases job with
  | reconciliation => exact runs.scan
  | catalogSync =>
    cases enabled : s.catalogSync.enabled with
    | true => exact runs.sync enabled
    | false => simp [Program.jobs, enabled] at mem

-- Settings that are accepted are sound, and the work they make goes on unless their text says zero
-- of it: then no run is due before the one before it, or no scan takes a payment.
theorem accepted_runs (accepted : ofText text = .ok s) :
    s.Sound ∧
      (∃ y, Yaml.ofText? text = some y ∧
        (s.Runs ↔ scanInterval? y ≠ some 0 ∧
          (s.catalogSync.enabled = true → syncInterval? y ≠ some 0) ∧ batchSize? y ≠ some 0)) ∧
      (s.Runs →
        (∀ job ∈ Program.jobs s, ∀ due start,
          due < Schedule.nextDue (job.intervalSecs s * 1000) due start) ∧
        ∀ (t : Tables) (cutoff : Instant),
          t.stale [.pending, .unknown] cutoff s.reconciliationPlan.batchSize = [] →
          ∀ r ∈ t.transactions, r.status = .pending ∨ r.status = .unknown → ¬ r.updatedAt < cutoff) := by
  obtain ⟨y, document, read, sound⟩ := ofText_eq_ok_iff.mp accepted
  refine ⟨sound, ⟨y, document, runs_iff read⟩, fun runs => ⟨fun job mem => runs.due mem, ?_⟩⟩
  intro t cutoff empty r stored status
  exact Tables.stale_eq_nil runs.batch empty r stored (by simpa using status)

def periodic (seconds batchSize : Nat) : Settings where
  logLevel := "info"
  logDir := "logs"
  logFile := "log"
  useJson := false
  rotation := "daily"
  postgresUrl := none
  database := .standard
  settlement := .standard
  referral := .standard
  catalogSync :=
    { CatalogSettings.standard with
      enabled := true, intervalSecs := seconds, pageSize := 1, baseUrl := "a" }
  reconciliation := ⟨seconds, 16, batchSize⟩

def periodicText (seconds batchSize : Nat) : String :=
  "log_level: info\nlog_dir: logs\nlog_file: log\nuse_json: false\nrotation: daily\n" ++
    "catalog_sync: [true, " ++ toString seconds ++ ", 1, a]\n" ++
    "reconciliation: [" ++ toString seconds ++ ", 16, " ++ toString batchSize ++ "]\n"

theorem accepted_runs_quick : ofText (periodicText 1 1) = .ok (periodic 1 1) ∧ (periodic 1 1).Runs := by
  have read : (Yaml.ofText? (periodicText 1 1)).map
      (fun y => (ofYaml? y, scanInterval? y, syncInterval? y, batchSize? y)) =
        some (some (periodic 1 1), some 1, some 1, some 1) := by decide +kernel
  obtain ⟨y, document, given⟩ := Option.map_eq_some_iff.mp read
  simp only [Prod.mk.injEq] at given
  obtain ⟨settings, scan, sync, batch⟩ := given
  have sound : (periodic 1 1).Sound := flaw?_eq_none_iff.mp (by decide +kernel)
  have accepted := ofText_eq_ok_iff.mpr ⟨y, document, settings, sound⟩
  obtain ⟨-, ⟨y', same, runs⟩, -⟩ := accepted_runs accepted
  cases document.symm.trans same
  refine ⟨accepted, runs.mpr ?_⟩
  rw [scan, sync, batch]
  decide

-- Zeros are accepted as well.
theorem idle_accepted : ofText (periodicText 0 0) = .ok (periodic 0 0) ∧
    (periodic 0 0).scanIntervalMs = 0 ∧
      ((periodic 0 0).catalogSync.enabled = true ∧ (periodic 0 0).syncIntervalMs = 0) ∧
      (periodic 0 0).reconciliationPlan.batchSize = 0 := by
  decide +kernel

end Settings
end Treasury
