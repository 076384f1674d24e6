import Treasury.Proofs.Reconciliation.Serving

namespace Treasury

-- What a scan counts on: each transaction stands once, and what waits is settled outside.
structure Tables.Resolvable (t : Tables) : Prop where
  single : (t.transactions.map Transaction.id).Nodup
  outside : ∀ r ∈ t.transactions, r.status ∈ [.pending, .unknown] → r.platform.isExternal = true

theorem Standing.outside {r : Transaction} {lines : List Line} (standing : Standing r lines)
    (waits : r.status ∈ [.pending, .unknown]) : r.platform.isExternal = true := by
  cases standing with
  | booked opening own same =>
    have final : r.status = .succeeded := by
      rw [same]
      exact opening.succeeded own
    rw [final] at waits
    exact absurd waits (by decide)
  | reserved reserves => exact reserves.platform
  | compensated reserves => exact reserves.platform
  | settled reserves => exact reserves.platform

theorem Tables.Orderly.resolvable {g : Gauge} {t : Tables} (orderly : t.Orderly g) : t.Resolvable :=
  ⟨orderly.single, fun r mem waits => (orderly.standing r mem).outside waits⟩

namespace Reconciliation

variable {s s' : Server} {timeout : Nat} {providers : Registry} {plan : Plan} {t t' : Tables}
  {batch : List Transaction} {r : Transaction} {limit : Instant}

-- A transaction without an outcome that was last touched before a moment.
def overdue (limit : Instant) (r : Transaction) : Bool :=
  [TransactionStatus.pending, .unknown].contains r.status && decide (r.updatedAt < limit)

def waiting (t : Tables) (limit : Instant) : List Transaction :=
  t.transactions.filter (overdue limit)

-- Of those that wait, a scan takes up the ones that have waited longest.
def Plan.chosen (plan : Plan) (t : Tables) (limit : Instant) : List Transaction :=
  ((waiting t limit).mergeSort Tables.servedBefore).take plan.batchSize

theorem mem_waiting : r ∈ waiting t limit ↔
    r ∈ t.transactions ∧ r.status ∈ [.pending, .unknown] ∧ r.updatedAt < limit := by
  simp [waiting, overdue]

namespace Plan

theorem chosen_waits (mem : r ∈ plan.chosen t limit) : r ∈ waiting t limit :=
  List.mem_mergeSort.mp (List.mem_of_mem_take mem)

theorem chosen_stored (resolvable : t.Resolvable) (mem : r ∈ plan.chosen t limit) :
    t.transaction? r.id = some r :=
  Rows.find?_of_mem resolvable.single (mem_waiting.mp (chosen_waits mem)).1

theorem chosen_outside (resolvable : t.Resolvable) (mem : r ∈ plan.chosen t limit) :
    r.platform.isExternal = true := by
  obtain ⟨stored, waits, -⟩ := mem_waiting.mp (chosen_waits mem)
  exact resolvable.outside r stored waits

theorem mem_chosen_of_id (resolvable : t.Resolvable) (stored : r ∈ t.transactions)
    (mine : r.id ∈ (plan.chosen t limit).map Transaction.id) : r ∈ plan.chosen t limit := by
  obtain ⟨x, mem, same⟩ := List.mem_map.mp mine
  have found := chosen_stored resolvable mem
  have here : t.transaction? r.id = some r := Rows.find?_of_mem resolvable.single stored
  rw [same, here] at found
  exact Option.some.inj found ▸ mem

end Plan

-- Whoever served a batch left the rows fit for the next scan.
theorem Plan.served_resolvable (resolvable : t.Resolvable)
    (served : t.Served ((plan.chosen t limit).map Transaction.id) start stop t') : t'.Resolvable := by
  refine ⟨served.keys ▸ resolvable.single, ?_⟩
  obtain ⟨change, served⟩ := served
  intro r' mem waits
  rw [served.rows] at mem
  obtain ⟨r, stored, rfl⟩ := List.mem_map.mp mem
  rw [served.platform r stored]
  by_cases mine : r.id ∈ (plan.chosen t limit).map Transaction.id
  · exact chosen_outside resolvable (mem_chosen_of_id resolvable stored mine)
  · rw [served.others r stored mine] at waits
    exact resolvable.outside r stored waits

-- How a scan ends that read the clock at this moment and took up this batch.
structure Scanned (providers : Registry) (batch : List Transaction) (now : Instant) (s : Server)
    (r : Report) (s' : Server) (heard : List Exchange) : Prop where
  calm : s'.Calm
  later : now ≤ s'.clock
  asked : heard.map Exchange.call = inquiries providers batch
  served : s.tables.Served (batch.map Transaction.id) now s'.clock s'.tables
  counts : Report.empty.Counts batch.length r

-- A moment that the clock can have told, and the cutoff that a scan takes at it.
structure Plan.Cuts (plan : Plan) (s : Server) (now cutoff : Instant) : Prop where
  regular : now.Regular
  later : s.clock ≤ now
  cut : plan.cutoff now = .ok cutoff

theorem Interrupted.early {rows : Tables} {h : Halt TransactionError} {heard : List Exchange}
    (ended : Interrupted timeout providers batch rows start h s' heard) (early : start' ≤ start) :
    Interrupted timeout providers batch rows start' h s' heard := by
  obtain ⟨done, x, left, parts, later, served, asked, last, kept, uncounted⟩ := ended
  exact .stopped done x left parts (le_trans early later) (served.widen early (le_refl _)) asked last
    kept uncounted

end Reconciliation

namespace World

open Reconciliation

-- A provider that has made the payment in the meantime, for a little less.
def settler : {β : Type} → Question β → β
  | _, .call _ => ⟨.success "r-1" (some (.ofCents 990 (by decide))), some 20⟩
  | _, .page _ _ => .error .malformedPage

end World
end Treasury
