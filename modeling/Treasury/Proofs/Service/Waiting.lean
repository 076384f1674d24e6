import Treasury.Proofs.Service.Ensures
import Treasury.Proofs.Service.Steady

namespace Treasury

-- Time goes on, to a moment that is no leap second, and nothing else happens.
structure Server.Waits (s s' : Server) : Prop where
  later : s.clock ≤ s'.clock
  regular : s'.clock.Regular
  same : s' = { s with clock := s'.clock }

-- A step by which no row changed.
structure Server.Passes (s s' : Server) : Prop where
  calm : s'.Calm
  later : s.clock ≤ s'.clock
  tables : s'.tables = s.tables

namespace Server.Waits

variable {s s' : Server}

theorem tables (waits : s.Waits s') : s'.tables = s.tables := by rw [waits.same]

theorem calm (waits : s.Waits s') (calm : s.Calm) : s'.Calm := by
  rw [waits.same]
  exact ⟨calm.1, calm.2, calm.3⟩

theorem passes (waits : s.Waits s') (calm : s.Calm) : s.Passes s' :=
  ⟨waits.calm calm, waits.later, waits.tables⟩

end Server.Waits

namespace Server.Passes

variable {s s' s'' : Server}

theorem trans (first : s.Passes s') (second : s'.Passes s'') : s.Passes s'' :=
  ⟨second.calm, le_trans first.later second.later, second.tables.trans first.tables⟩

theorem report (passes : s.Passes s') (event : Log.Event) : s.Passes (s'.report event).2 :=
  ⟨⟨passes.calm.1, passes.calm.2, passes.calm.3⟩, passes.later, passes.tables⟩

theorem now (passes : s.Passes s') : s.Passes s'.now.2 :=
  ⟨⟨passes.calm.1, passes.calm.2, passes.calm.3⟩, le_trans passes.later s'.clock.le_next,
    passes.tables⟩

end Server.Passes

-- Whether a run alone takes each of its steps at a moment that is no leap second.
def Flow.onTime (answer : {β : Type} → Question β → β) : Flow α → Server → Bool
  | .done _, _ => true
  | .step act next, s => decide s.clock.Regular && (next (act s).1).onTime answer (act s).2
  | .ask question next, s => decide s.clock.Regular && (next (answer question)).onTime answer s

-- Such a run is one in which nobody waits.
theorem Flow.Ensures.onTime {flow : Flow α} {s : Server} {P : α → Server → List Exchange → Prop}
    (ensures : flow.Ensures Server.Waits (fun _ _ => True) s P) (answer : {β : Type} → Question β → β)
    (onTime : flow.onTime answer s = true) :
    P (flow.runAlone answer s).1 (flow.runAlone answer s).2 (flow.heard answer s) := by
  have stays {s : Server} (regular : decide s.clock.Regular = true) : s.Waits s :=
    ⟨le_refl _, of_decide_eq_true regular, rfl⟩
  induction flow generalizing s P with
  | done a => exact ensures
  | step act next ih =>
    obtain ⟨regular, onTime⟩ := Bool.and_eq_true_iff.mp onTime
    exact ih _ (ensures s (stays regular) trivial) onTime
  | ask question next ih =>
    obtain ⟨regular, onTime⟩ := Bool.and_eq_true_iff.mp onTime
    exact ih _ (ensures s (answer question) (stays regular)) onTime

-- What a task ensures while nobody else changes a row.
def Task.Patient (task : Task ε α) (s : Server) (E : Halt ε → Server → List Exchange → Prop)
    (Q : α → Server → List Exchange → Prop) : Prop :=
  task.Ensures Server.Waits (fun _ _ => True) s E Q

namespace Task.Patient

variable {task : Task ε α} {s : Server} {E : Halt ε → Server → List Exchange → Prop}
  {Q : α → Server → List Exchange → Prop}

theorem now_then {f : Instant → Task ε α} (calm : s.Calm)
    (rest : ∀ now s', now.Regular → s.clock ≤ now → now ≤ s'.clock → s.Passes s' →
      (f now).Patient s' E Q) : (Task.now >>= f).Patient s E Q := by
  refine Task.Ensures.bind (.now fun s₁ waits _ => ?_)
  exact rest s₁.clock s₁.now.2 waits.regular waits.later s₁.clock.le_next (waits.passes calm).now

theorem report_then {event : Log.Event} {f : Unit → Task ε α} (calm : s.Calm)
    (rest : ∀ s', s.Passes s' → (f ()).Patient s' E Q) : (Task.report event >>= f).Patient s E Q := by
  refine Task.Ensures.bind (.report fun s₁ waits _ => ?_)
  exact rest _ ((waits.passes calm).report event)

theorem attempt {timeout : Nat} {call : Call} {Q : Outcome → Server → List Exchange → Prop}
    (calm : s.Calm)
    (post : ∀ s' reply, s.Passes s' → Q (reply.within timeout) s' [⟨call, s.tables, reply⟩]) :
    (External.attempt timeout call).Patient s E Q := by
  refine Task.Ensures.asked fun s₁ s₂ reply event first second _ => ?_
  have passes := first.passes calm
  rw [first.tables]
  exact post _ reply ((passes.trans (second.passes passes.calm)).report event)

theorem unit {w : Work ε α} {tell : StoreError → ε} {E' : Halt ε → Prop}
    {Q' : Gauge → α → Gauge → Option Tables → Prop} (calm : s.Calm)
    (runs : ∀ g, w.Runs E' g s.tables (Q' g)) (steady : w.Steady fun _ => True)
    (ok : ∀ g s' a p, s.clock ≤ g.clock → s'.Calm → g.clock ≤ s'.clock → Q' g a s'.gauge p →
      s'.tables = p.getD s.tables → Q a s' [])
    (error : ∀ s' h, s.Passes s' → E' h → E h s' []) : (Task.unit tell w).Patient s E Q := by
  intro s₁ waits _
  have onward := (s₁.unit_steady steady tell).1
  have ended : s₁.Ended E' (Q' s₁.gauge) (s₁.unit tell w).1 (s₁.unit tell w).2 :=
    s₁.unit_ended (waits.tables ▸ runs s₁.gauge) (waits.calm calm).honest
  have calm₂ := ended.calm (waits.calm calm)
  rcases result : (s₁.unit tell w).1 with h | a
  · obtain ⟨tables, allowed⟩ := ended.refusal h result
    have passes := (waits.passes calm).trans ⟨calm₂, onward, tables⟩
    exact error _ h passes (allowed (waits.calm calm))
  · obtain ⟨p, post, tables⟩ := ended.answer a result
    exact ok s₁.gauge _ a p waits.later calm₂ onward post (waits.tables ▸ tables)

theorem settle {c : SettleCall} {E' : Halt TransactionError → Prop}
    {Q' : Gauge → Transaction → Gauge → Option Tables → Prop}
    {E : Halt TransactionError → Server → List Exchange → Prop}
    {Q : Transaction → Server → List Exchange → Prop} (calm : s.Calm)
    (runs : ∀ g, c.work.Runs E' g s.tables fun answer g' p =>
      ∃ r, answer = .settled r ∧ Q' g r g' p)
    (ok : ∀ g s' r p, s.clock ≤ g.clock → s'.Calm → g.clock ≤ s'.clock → Q' g r s'.gauge p →
      s'.tables = p.getD s.tables → Q r s' [])
    (error : ∀ s' h, s.Passes s' → E' h → E h s' []) :
    (External.settle c.id c.expected c.provider c.outcome).Patient s E Q := by
  have first : (Task.unit c.refuse c.work).Patient s E fun answer s' heard =>
      ∃ r, answer = .settled r ∧ Q r s' heard := by
    refine unit calm runs c.work_steady (fun g s' answer p before calm' after found tables => ?_) error
    obtain ⟨r, rfl, post⟩ := found
    exact ⟨r, rfl, ok g s' r p before calm' after post tables⟩
  refine Task.Ensures.bind (Task.Ensures.mono first ?_ fun _ _ _ stopped => stopped)
  rintro _ s' heard ⟨r, rfl, post⟩
  refine .pure ?_
  rwa [List.append_nil]

theorem answered (patient : task.Patient s E Q) (answer : {β : Type} → Question β → β)
    (onTime : task.run.onTime answer s = true) (ran : (task.run.runAlone answer s).1 = .ok a) :
    Q a (task.run.runAlone answer s).2 (task.run.heard answer s) := by
  have ended := Flow.Ensures.onTime patient answer onTime
  rw [ran] at ended
  exact ended

end Task.Patient
end Treasury
