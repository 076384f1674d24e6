import Mathlib.Data.List.Nodup
import Mathlib.Data.List.Sort
import Treasury.Proofs.Reconciliation.Scan

namespace Treasury

-- The order of the queue, in which no two transactions have one place.
def Transaction.Precedes (a b : Transaction) : Prop :=
  a.updatedAt < b.updatedAt ∨ a.updatedAt = b.updatedAt ∧ a.id.ulid < b.id.ulid

theorem TransactionId.eq_of_bits : ∀ {a b : TransactionId}, a.ulid.bits = b.ulid.bits → a = b
  | ⟨⟨_, _⟩⟩, ⟨⟨_, _⟩⟩, rfl => rfl

namespace Tables

theorem servedBefore_iff {a b : Transaction} : servedBefore a b = true ↔
    a.updatedAt < b.updatedAt ∨ a.updatedAt = b.updatedAt ∧ a.id.ulid.bits ≤ b.id.ulid.bits := by
  rw [servedBefore, decide_eq_true_iff]
  rfl

theorem servedBefore_trans (a b c : Transaction) (first : servedBefore a b = true)
    (second : servedBefore b c = true) : servedBefore a c = true := by
  rw [servedBefore_iff] at *
  rcases first with first | ⟨first, low⟩ <;> rcases second with second | ⟨second, high⟩
  · exact .inl (first.trans second)
  · exact .inl (second ▸ first)
  · exact .inl (first ▸ second)
  · exact .inr ⟨first.trans second, low.trans high⟩

theorem servedBefore_total (a b : Transaction) : (servedBefore a b || servedBefore b a) = true := by
  rw [Bool.or_eq_true, servedBefore_iff, servedBefore_iff]
  rcases lt_trichotomy a.updatedAt b.updatedAt with early | same | late
  · exact .inl (.inl early)
  · rcases Nat.le_total a.id.ulid.bits b.id.ulid.bits with low | high
    · exact .inl (.inr ⟨same, low⟩)
    · exact .inr (.inr ⟨same.symm, high⟩)
  · exact .inr (.inl late)

theorem precedes_of_servedBefore {a b : Transaction} (before : servedBefore a b = true)
    (apart : a.id ≠ b.id) : a.Precedes b := by
  rcases servedBefore_iff.mp before with early | ⟨same, low⟩
  · exact .inl early
  · refine .inr ⟨same, Nat.lt_of_le_of_ne low fun bits => ?_⟩
    exact apart (TransactionId.eq_of_bits bits)

end Tables

namespace Reconciliation

variable {s s' : Server} {timeout : Nat} {providers : Registry} {plan : Plan} {t t' : Tables}
  {r x : Transaction} {now cutoff limit : Instant}

namespace Plan

theorem chosen_length : (plan.chosen t limit).length = min (waiting t limit).length plan.batchSize := by
  rw [chosen, List.length_take, List.length_mergeSort, Nat.min_comm]

theorem chosen_first (resolvable : t.Resolvable) (mem : r ∈ plan.chosen t limit)
    (waits : x ∈ waiting t limit) (out : x ∉ plan.chosen t limit) : r.Precedes x := by
  have sorted := List.pairwise_mergeSort Tables.servedBefore_trans Tables.servedBefore_total
    (waiting t limit)
  rw [← List.take_append_drop plan.batchSize ((waiting t limit).mergeSort _),
    List.pairwise_append] at sorted
  have queued : x ∈ (waiting t limit).mergeSort Tables.servedBefore := List.mem_mergeSort.mpr waits
  rw [← List.take_append_drop plan.batchSize ((waiting t limit).mergeSort _)] at queued
  have behind := (List.mem_append.mp queued).resolve_left out
  refine Tables.precedes_of_servedBefore (sorted.2.2 r mem x behind) fun same => out ?_
  exact mem_chosen_of_id resolvable (mem_waiting.mp waits).1 (same ▸ List.mem_map_of_mem mem)

theorem cutoff_le (fits : plan.staleAfter < 2 ^ 63) (regular : now.Regular)
    (cut : plan.cutoff now = .ok limit) : limit ≤ now := by
  rw [plan.cutoff_eq cut, span_exact fits]
  exact Instant.minusMillis_le regular (Int.natCast_nonneg _)

end Plan

-- What a scan makes of the queue before a moment: it takes up the first ones of it, counts each of
-- them once, and leaves them behind all that it did not take up.
structure Plan.Turn (plan : Plan) (t : Tables) (limit : Instant) (report : Report) (t' : Tables) :
    Prop where
  size : (plan.chosen t limit).length = min (waiting t limit).length plan.batchSize
  first : ∀ r ∈ plan.chosen t limit, ∀ x ∈ waiting t limit, x ∉ plan.chosen t limit → r.Precedes x
  scanned : report.scanned = min (waiting t limit).length plan.batchSize
  sorted : report.succeeded + report.failed + report.stillUnknown + report.errors =
    min (waiting t limit).length plan.batchSize
  behind : ∀ r ∈ plan.chosen t limit, ∃ r', t'.transaction? r.id = some r' ∧
    ∀ x ∈ waiting t limit, x ∉ plan.chosen t limit →
      t'.transaction? x.id = some x ∧ x.Precedes r'

theorem Scanned.turn {report : Report} {heard : List Exchange}
    (fits : plan.staleAfter < 2 ^ 63) (resolvable : s.tables.Resolvable) (cuts : plan.Cuts s now limit)
    (scanned : Scanned providers (plan.chosen s.tables limit) now s report s' heard) :
    plan.Turn s.tables limit report s'.tables := by
  have size := @Plan.chosen_length plan s.tables limit
  have counts := scanned.counts
  rw [size] at counts
  refine ⟨size, fun r mem x waits out => Plan.chosen_first resolvable mem waits out,
    counts.scanned.trans (Nat.zero_add _), counts.sorted.trans (Nat.zero_add _), fun r mem => ?_⟩
  obtain ⟨r', found, -, -, moved⟩ := scanned.served.found (Plan.chosen_stored resolvable mem)
  refine ⟨r', found, fun x waits out => ?_⟩
  obtain ⟨stored, -, early⟩ := mem_waiting.mp waits
  obtain ⟨x', found', -, same, -⟩ :=
    scanned.served.found (Rows.find?_of_mem resolvable.single stored)
  have other : x.id ∉ (plan.chosen s.tables limit).map Transaction.id := fun mine =>
    out (Plan.mem_chosen_of_id resolvable stored mine)
  have late := (moved (List.mem_map_of_mem mem)).1
  have back := Plan.cutoff_le fits cuts.regular cuts.cut
  exact ⟨found'.trans (congrArg some (same other)),
    .inl (lt_of_lt_of_le early (le_trans back late))⟩

-- What scans in a row have come to: these transactions were asked about and written anew.
structure Worked (providers : Registry) (start : Instant) (ids : List TransactionId) (s s' : Server)
    (heard : List Exchange) : Prop where
  calm : s'.Calm
  later : start ≤ s'.clock
  resolvable : s'.tables.Resolvable
  served : s.tables.Served ids start s'.clock s'.tables
  asked : ∀ r ∈ s.tables.transactions, r.id ∈ ids → inquiry providers r ⊆ heard.map Exchange.call

namespace Worked

variable {ids more : List TransactionId} {s₁ : Server} {heard heard' : List Exchange}

theorem none (calm : s.Calm) (resolvable : s.tables.Resolvable) :
    Worked providers s.clock [] s s [] :=
  ⟨calm, le_refl _, resolvable, .none rfl, by rintro _ _ ⟨⟩⟩

theorem early (worked : Worked providers start ids s s' heard) (early : start' ≤ start) :
    Worked providers start' ids s s' heard :=
  ⟨worked.calm, le_trans early worked.later, worked.resolvable,
    worked.served.widen early (le_refl _), worked.asked⟩

theorem trans (resolvable : s.tables.Resolvable) (first : Worked providers start ids s s₁ heard)
    (second : Worked providers s₁.clock more s₁ s' heard') :
    Worked providers start (ids ++ more) s s' (heard ++ heard') := by
  refine ⟨second.calm, le_trans first.later second.later, second.resolvable,
    (first.served.widen (le_refl _) second.later).trans (second.served.widen first.later (le_refl _)),
    fun r stored mine => ?_⟩
  rw [List.map_append]
  rcases List.mem_append.mp mine with early | late
  · exact List.subset_append_of_subset_left _ (first.asked r stored early)
  · -- The record may have changed by then, but not whom it is asked of.
    obtain ⟨r', found, platform, -⟩ :=
      first.served.found (Rows.find?_of_mem resolvable.single stored)
    have same : r'.id = r.id := Rows.key_of_find? found
    have asked := second.asked r' (Rows.mem_of_find? found) (same ▸ late)
    rw [inquiry, platform, same] at asked
    exact List.subset_append_of_subset_right _ asked

end Worked

theorem Scanned.worked {report : Report} {heard : List Exchange}
    (resolvable : s.tables.Resolvable)
    (scanned : Scanned providers (plan.chosen s.tables cutoff) now s report s' heard) :
    Worked providers now ((plan.chosen s.tables cutoff).map Transaction.id) s s' heard := by
  refine ⟨scanned.calm, scanned.later, Plan.served_resolvable resolvable scanned.served,
    scanned.served, fun r stored mine c mem => ?_⟩
  rw [scanned.asked]
  exact List.mem_flatMap.mpr ⟨r, Plan.mem_chosen_of_id resolvable stored mine, mem⟩

end Reconciliation

namespace World

open Reconciliation

end World
end Treasury
