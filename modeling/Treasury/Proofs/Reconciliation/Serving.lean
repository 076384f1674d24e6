import Treasury.Proofs.Reconciliation.Cutoff
import Treasury.Proofs.Service.Waiting

namespace Treasury

namespace Tables

variable {t t' t'' : Tables} {ids more : List TransactionId} {start stop : Instant}

-- What a change of each row does that writes these transactions anew between two moments.
structure ServedBy (change : Transaction → Transaction) (ids : List TransactionId)
    (start stop : Instant) (t t' : Tables) : Prop where
  rows : t'.transactions = t.transactions.map change
  id : ∀ r ∈ t.transactions, (change r).id = r.id
  platform : ∀ r ∈ t.transactions, (change r).platform = r.platform
  others : ∀ r ∈ t.transactions, r.id ∉ ids → change r = r
  moved : ∀ r ∈ t.transactions, r.id ∈ ids →
    start ≤ (change r).updatedAt ∧ (change r).updatedAt ≤ stop

def Served (ids : List TransactionId) (start stop : Instant) (t t' : Tables) : Prop :=
  ∃ change, t.ServedBy change ids start stop t'

namespace Served

theorem none (same : t'.transactions = t.transactions) : t.Served [] start stop t' := by
  refine ⟨fun r => r, by rw [same, List.map_id'], fun _ _ => rfl, fun _ _ => rfl, fun _ _ _ => rfl, ?_⟩
  rintro _ _ ⟨⟩

theorem one {number : TransactionId} (change : Transaction → Transaction)
    (single : (t.transactions.map Transaction.id).Nodup) (stored : t.transaction? number = some r)
    (id : (change r).id = r.id) (platform : (change r).platform = r.platform)
    (after : start ≤ moment) (before : moment ≤ stop)
    (rows : t'.transactions = (t.withChanged number change moment).transactions) :
    t.Served [number] start stop t' := by
  have only : ∀ x ∈ t.transactions, x.id = number → x = r := by
    rintro x mem rfl
    exact Option.some.inj ((Rows.find?_of_mem single mem).symm.trans stored)
  refine ⟨fun x => if x.id = number then { change x with updatedAt := moment } else x, rows,
    fun x mem => ?_, fun x mem => ?_, fun x mem other => ?_, fun x mem mine => ?_⟩
  · by_cases mine : x.id = number
    · rw [if_pos mine, only x mem mine]
      exact id
    · rw [if_neg mine]
  · by_cases mine : x.id = number
    · rw [if_pos mine, only x mem mine]
      exact platform
    · rw [if_neg mine]
  · exact if_neg (by simpa using other)
  · rw [if_pos (List.mem_singleton.mp mine)]
    exact ⟨after, before⟩

theorem touched {number : TransactionId} (single : (t.transactions.map Transaction.id).Nodup)
    (stored : t.transaction? number = some r) (moment : Instant) :
    t.Served [number] moment moment.next (t.withTouched number moment) :=
  .one (fun r => r) single stored rfl rfl (le_refl _) moment.le_next rfl

theorem widen (served : t.Served ids start stop t') (early : start' ≤ start) (late : stop ≤ stop') :
    t.Served ids start' stop' t' := by
  obtain ⟨change, served⟩ := served
  refine ⟨change, { served with moved := fun r mem mine => ?_ }⟩
  obtain ⟨after, before⟩ := served.moved r mem mine
  exact ⟨le_trans early after, le_trans before late⟩

theorem trans (first : t.Served ids start stop t') (second : t'.Served more start stop t'') :
    t.Served (ids ++ more) start stop t'' := by
  obtain ⟨f, first⟩ := first
  obtain ⟨h, second⟩ := second
  have there : ∀ r ∈ t.transactions, f r ∈ t'.transactions := fun r mem =>
    first.rows ▸ List.mem_map_of_mem mem
  refine ⟨fun r => h (f r), ?_, fun r mem => ?_, fun r mem => ?_, fun r mem other => ?_,
    fun r mem mine => ?_⟩
  · rw [second.rows, first.rows, List.map_map]
    rfl
  · exact (second.id _ (there r mem)).trans (first.id r mem)
  · exact (second.platform _ (there r mem)).trans (first.platform r mem)
  · rw [List.mem_append, not_or] at other
    have kept := first.others r mem other.1
    have again := second.others _ (there r mem)
    rw [kept] at again ⊢
    exact again other.2
  · by_cases late : r.id ∈ more
    · exact second.moved _ (there r mem) (first.id r mem ▸ late)
    · have early := (List.mem_append.mp mine).resolve_right late
      have again := second.others _ (there r mem) (first.id r mem ▸ late)
      rw [again]
      exact first.moved r mem early

theorem keys (served : t.Served ids start stop t') :
    t'.transactions.map Transaction.id = t.transactions.map Transaction.id := by
  obtain ⟨change, served⟩ := served
  rw [served.rows, List.map_map]
  exact List.map_congr_left served.id

theorem found (served : t.Served ids start stop t') (stored : t.transaction? number = some r) :
    ∃ r', t'.transaction? number = some r' ∧ r'.platform = r.platform ∧ (number ∉ ids → r' = r) ∧
      (number ∈ ids → start ≤ r'.updatedAt ∧ r'.updatedAt ≤ stop) := by
  obtain ⟨change, served⟩ := served
  have mem := Rows.mem_of_find? stored
  have key : r.id = number := Rows.key_of_find? stored
  refine ⟨change r, ?_, served.platform r mem, key ▸ served.others r mem, key ▸ served.moved r mem⟩
  rw [transaction?, served.rows, Rows.find?_map served.id]
  exact congrArg (Option.map change) stored

end Served
end Tables

-- What ends a settlement early is a refusal or such a sum.
def External.Stops (t : Tables) (r : Transaction) (outcome : Outcome) (h : Halt ε) : Prop :=
  ∀ reason, h = .broken reason → ∃ operation, reason = .overflow operation ∧
    External.Uncounted t r outcome operation

theorem External.bookOutcome_kept (r : Transaction) (provider : String) (outcome : Outcome)
    (g : Gauge) (t : Tables) :
    (External.bookOutcome r provider outcome).Stages (External.Stops t r outcome) g t
      fun _ g' t' => t'.transactions = t.transactions ∧ g.clock ≤ g'.clock := by
  have left : Work.Stages.Open (External.Stops t r outcome) t r outcome := by
    refine ⟨?_, ?_, ?_, ?_⟩
    · rintro operation uncounted _ ⟨⟩
      exact ⟨operation, rfl, uncounted⟩
    · rintro _ _ _ ⟨⟩
    · rintro _ _ _ _ _ ⟨⟩
    · rintro _ _ _ _ _ ⟨⟩
  have steady : (External.bookOutcome r provider outcome).Steady fun _ => True :=
    .bookOutcome (fun _ => trivial) r provider outcome
  exact steady.stages (.bookOutcome (fun _ _ _ _ _ _ books => books.transactions) left)

-- A settlement that finds the record it expects writes it anew, if it is not stopped.
theorem SettleCall.work_serves {c : SettleCall} {t : Tables}
    (single : (t.transactions.map Transaction.id).Nodup) (stored : t.transaction? c.id = some r)
    (current : r.status = c.expected) (g : Gauge) :
    c.work.Runs (External.Stops t r c.outcome) g t fun answer g' p => ∃ r', answer = .settled r' ∧
      ∃ t', p = some t' ∧ t.Served [c.id] g.clock g'.clock t' := by
  refine .bind (.told (.read (.bind (.found (fun x found => ?_) fun _ => by rintro _ ⟨⟩))))
  cases stored.symm.trans found
  split
  · rename_i moved
    exact absurd current moved
  · dsimp only
    split
    · refine .bind (.told (.touchTransactionIf (fun _ _ _ => ?_) (fun other => ?_)))
      · have served := Tables.Served.touched single stored g.clock
        exact .after (.told (.commit (.report_then (.pure ⟨r, rfl, _, rfl, served⟩))))
      · exact absurd current (other r stored)
    · split
      · exact .refuse (by rintro _ ⟨⟩)
      · refine .bind ((External.bookOutcome_kept r c.provider c.outcome g t).mono
          fun noted g₁ t₁ _ staged => ?_)
        obtain ⟨kept, later⟩ := staged
        refine .bind (.told (.updateTransactionIf (fun _ _ _ => ?_) (fun other => ?_)))
        · have served : t.Served [c.id] g.clock g₁.clock.next
              (t₁.withChanged c.id (c.update r noted).apply g₁.clock) := by
            refine .one (c.update r noted).apply single stored rfl
              (Details.settle_platform r.details noted) later g₁.clock.le_next ?_
            rw [Tables.withChanged, kept]
            rfl
          rw [if_pos rfl]
          exact .after (.told (.commit (.report_then (.pure ⟨_, rfl, _, rfl, served⟩))))
        · rw [Tables.transaction?, kept] at other
          exact absurd current (other r stored)

-- A step that wrote these transactions anew, and no other one.
structure Server.Serves (ids : List TransactionId) (s s' : Server) : Prop where
  calm : s'.Calm
  later : s.clock ≤ s'.clock
  tables : s.tables.Served ids s.clock s'.clock s'.tables

namespace Server.Serves

variable {ids more : List TransactionId} {s s' s'' : Server}

theorem trans (first : s.Serves ids s') (second : s'.Serves more s'') : s.Serves (ids ++ more) s'' :=
  ⟨second.calm, le_trans first.later second.later,
    (first.tables.widen (le_refl _) second.later).trans (second.tables.widen first.later (le_refl _))⟩

theorem after (passes : s.Passes s') (serves : s'.Serves ids s'') : s.Serves ids s'' :=
  ⟨serves.calm, le_trans passes.later serves.later,
    passes.tables ▸ serves.tables.widen passes.later (le_refl _)⟩

theorem before (serves : s.Serves ids s') (passes : s'.Passes s'') : s.Serves ids s'' :=
  ⟨passes.calm, le_trans serves.later passes.later,
    passes.tables.symm ▸ serves.tables.widen (le_refl _) passes.later⟩

theorem none (passes : s.Passes s') : s.Serves [] s' :=
  ⟨passes.calm, passes.later, .none (congrArg Tables.transactions passes.tables)⟩

end Server.Serves

-- What was answered in time cannot be booked: some sum that it takes is no decimal.
def Exchange.Uncounted (timeout : Nat) (operation : Decimal.Overflow) (e : Exchange) : Prop :=
  ∃ r, e.tables.transaction? e.call.correlation = some r ∧
    External.Uncounted e.tables r (e.reply.within timeout) operation

namespace Reconciliation

variable {s : Server} {timeout : Nat} {providers : Registry} {t : Transaction}

-- Counts so many transactions more, each as resolved, unresolved or in error.
structure Report.Counts (n : Nat) (r r' : Report) : Prop where
  scanned : r'.scanned = r.scanned + n
  sorted : r'.succeeded + r'.failed + r'.stillUnknown + r'.errors =
    r.succeeded + r.failed + r.stillUnknown + r.errors + n

def inquiry (providers : Registry) (t : Transaction) : List Call :=
  ((providers.name? t.platform).map (Call.status · t.id)).toList

def inquiries (providers : Registry) (batch : List Transaction) : List Call :=
  batch.flatMap (inquiry providers)

-- How a batch is ended early that was taken from these rows at this moment: what came before is
-- served, what comes after is not, and the last answer is the one that cannot be counted.
inductive Interrupted (timeout : Nat) (providers : Registry) (batch : List Transaction)
    (rows : Tables) (start : Instant) : Halt TransactionError → Server → List Exchange → Prop where
  | stopped (done : List Transaction) (x : Transaction) (left : List Transaction)
      (parts : batch = done ++ x :: left) (later : start ≤ s'.clock)
      (served : rows.Served (done.map Transaction.id) start s'.clock s'.tables)
      (asked : heard.map Exchange.call = inquiries providers done)
      (last : inquiry providers x = [e.call]) (kept : s'.tables = e.tables)
      (uncounted : e.Uncounted timeout operation) :
      Interrupted timeout providers batch rows start (.broken (.overflow operation)) s' (heard ++ [e])

theorem Report.Counts.trans {r r' r'' : Report} (first : r.Counts m r') (second : r'.Counts n r'') :
    r.Counts (n + m) r'' := by
  have scanned := second.scanned
  have sorted := second.sorted
  rw [first.scanned] at scanned
  rw [first.sorted] at sorted
  exact ⟨by omega, by omega⟩

end Reconciliation

end Treasury
