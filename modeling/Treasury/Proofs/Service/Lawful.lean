import Treasury.Proofs.Service.Change

namespace Treasury

namespace Flow

theorem bind_assoc (flow : Flow α) (f : α → Flow β) (h : β → Flow γ) :
    (flow.bind f).bind h = flow.bind fun a => (f a).bind h := by
  induction flow with
  | done a => rfl
  | step act next ih => exact congrArg (Flow.step act) (funext ih)
  | ask question next ih => exact congrArg (Flow.ask question) (funext ih)

theorem bind_done (flow : Flow α) : flow.bind .done = flow := by
  induction flow with
  | done a => rfl
  | step act next ih => exact congrArg (Flow.step act) (funext ih)
  | ask question next ih => exact congrArg (Flow.ask question) (funext ih)

end Flow

-- A server before and after one act that settles nothing.
structure Server.Advances (s s' : Server) : Prop where
  honest : s'.Honest
  calm : s.Calm → s'.Calm
  issued : s.gauge.Before s'.gauge
  change : Change s.gauge s.tables s'.gauge s'.tables

def SettleCall.refuse (c : SettleCall) : StoreError → TransactionError :=
  .storage ("settle transaction " ++ toString c.id)

def SettleCall.work (c : SettleCall) : Work TransactionError External.Settled :=
  External.settleIn c.id c.expected c.provider c.outcome c.refuse

def SettleCall.act (c : SettleCall) (s : Server) :
    Except (Halt TransactionError) External.Settled × Server := s.unit c.refuse c.work

def SettleCall.flow (c : SettleCall) : Flow (Except (Halt TransactionError) Transaction) :=
  (External.settle c.id c.expected c.provider c.outcome).run

def SettleCall.answer (c : SettleCall) : Except (Halt TransactionError) External.Settled →
    Flow (Except (Halt TransactionError) Transaction)
  | .ok (.settled t) => .done (.ok t)
  | .ok .outrun => (External.reload c.id).run
  | .error h => .done (.error h)

theorem SettleCall.flow_eq (c : SettleCall) : c.flow = .step c.act c.answer := by
  refine congrArg (Flow.step c.act) (funext fun r => ?_)
  rcases r with h | t | _ <;> rfl

-- `P` holds of every result.
inductive Flow.Lawful {α : Type} (P : α → Prop) : Flow α → Prop where
  | done (post : P a) : Lawful P (.done a)
  | step {β : Type} {act : Server → β × Server} {next : β → Flow α}
      (advances : ∀ s : Server, s.Honest → s.Advances (act s).2)
      (rest : ∀ s : Server, s.Honest → Lawful P (next (act s).1)) : Lawful P (.step act next)
  | settle (c : SettleCall) (call : flow = c.flow.bind next) (rest : ∀ r, Lawful P (next r)) :
      Lawful P flow
  | ask {β : Type} {question : Question β} {next : β → Flow α} (rest : ∀ b, Lawful P (next b)) :
    Lawful P (.ask question next)

theorem Flow.Lawful.bind {flow : Flow α} {f : α → Flow β} {P : α → Prop} {Q : β → Prop}
    (first : flow.Lawful P) (rest : ∀ a, P a → (f a).Lawful Q) : (flow.bind f).Lawful Q := by
  induction first with
  | done post => exact rest _ post
  | step advances _ ih => exact .step advances ih
  | settle c call _ ih =>
    rw [call, Flow.bind_assoc]
    exact .settle c rfl ih
  | ask _ ih => exact .ask ih

def Task.Lawful (task : Task ε α) (P : α → Prop) : Prop :=
  Flow.Lawful (fun r => ∀ a, r = .ok a → P a) task.run

-- A task of one unit of work, by how the unit ends. `E` holds of what a calm server refuses with,
-- and `Q` of an answer and of the rows that were published with it, if any were.
def Task.Acts (task : Task ε α) (E : Gauge → Tables → Halt ε → Prop)
    (Q : Gauge → Tables → α → Gauge → Option Tables → Prop) : Prop :=
  ∃ act : Server → Except (Halt ε) α × Server, task.run = .step act .done ∧
    ∀ s : Server, s.Honest → s.Ended (E s.gauge s.tables) (Q s.gauge s.tables) (act s).1 (act s).2

theorem Task.Acts.unit {E : Gauge → Tables → Halt ε → Prop}
    {Q : Gauge → Tables → α → Gauge → Option Tables → Prop} {w : Work ε α} {tell : StoreError → ε}
    (runs : ∀ g t, w.Runs (E g t) g t (Q g t)) : (Task.unit tell w).Acts E Q :=
  ⟨_, rfl, fun s honest => s.unit_ended (runs s.gauge s.tables) honest⟩

theorem Task.Acts.mono {task : Task ε α} {E E' : Gauge → Tables → Halt ε → Prop}
    {Q Q' : Gauge → Tables → α → Gauge → Option Tables → Prop} (acts : task.Acts E Q)
    (allowed : ∀ g t h, E g t h → E' g t h)
    (weaker : ∀ g t a g' p, Q g t a g' p → Q' g t a g' p) : task.Acts E' Q' := by
  obtain ⟨act, same, ends⟩ := acts
  refine ⟨act, same, fun s honest => ?_⟩
  have ended := ends s honest
  refine { ended with answer := fun a ok => ?_, refusal := fun h stopped => ?_ }
  · obtain ⟨published, post, tables⟩ := ended.answer a ok
    exact ⟨published, weaker _ _ _ _ _ post, tables⟩
  · obtain ⟨tables, why⟩ := ended.refusal h stopped
    exact ⟨tables, fun calm => allowed _ _ _ (why calm)⟩

def Task.Reads (task : Task ε α) : Prop :=
  task.Acts (fun _ _ _ => True) fun _ _ _ _ p => p = none

theorem Task.Acts.reads {task : Task ε α} {E : Gauge → Tables → Halt ε → Prop}
    {Q : Gauge → Tables → α → Gauge → Option Tables → Prop} (acts : task.Acts E Q)
    (unpublished : ∀ g t a g' p, Q g t a g' p → p = none) : task.Reads :=
  acts.mono (fun _ _ _ _ => trivial) unpublished

-- A unit of work that looks up a row. On a calm server it fails only where there is none.
def Task.Finds (task : Task ε α) (row : Tables → Option α) : Prop :=
  task.Acts (fun _ t _ => row t = none) fun _ t a _ p => row t = some a ∧ p = none

theorem Task.Finds.reads {task : Task ε α} {row : Tables → Option α} (finds : task.Finds row) :
    task.Reads := Acts.reads finds fun _ _ _ _ _ found => found.2

def Within (P : α → Prop) (g : Gauge) (t : Tables) (a : α) (g' : Gauge) (p : Option Tables) : Prop :=
  P a ∧ ∀ t', p = some t' → Change g t g' t'

theorem Within.kept (post : P a) : Within P g t a g' none := ⟨post, by rintro _ ⟨⟩⟩

theorem Within.published (post : P a) (change : Change g t g' t') : Within P g t a g' (some t') :=
  ⟨post, by rintro _ ⟨⟩; exact change⟩

namespace Task.Lawful

variable {P : α → Prop} {task : Task ε α}

theorem pure (post : P a) : Task.Lawful (Pure.pure a : Task ε α) P :=
  .done (by rintro _ ⟨⟩; exact post)

theorem halt {h : Halt ε} : Task.Lawful (throw h : Task ε α) P := .done (by rintro _ ⟨⟩)

theorem refuse : Task.Lawful (Task.refuse e : Task ε α) P := halt

theorem breakOff : Task.Lawful (Task.breakOff reason : Task ε α) P := halt

theorem bind {task : Task ε β} {f : β → Task ε α} (first : task.Lawful Q)
    (rest : ∀ b, Q b → (f b).Lawful P) : (task >>= f).Lawful P := by
  refine Flow.Lawful.bind first ?_
  rintro (h | b) post
  · exact .done (by rintro _ ⟨⟩)
  · exact rest b (post b rfl)

theorem after {task : Task ε β} {f : β → Task ε α} (first : task.Lawful fun _ => True)
    (rest : ∀ b, (f b).Lawful P) : (task >>= f).Lawful P := bind first fun b _ => rest b

theorem checked {r : Except ε α} (post : ∀ a, r = .ok a → P a) : (Task.checked r).Lawful P := by
  cases r with
  | ok a => exact pure (post a rfl)
  | error e => exact refuse

theorem settled {r : Except Breakdown α} (post : ∀ a, r = .ok a → P a) :
    (Task.settled r : Task ε α).Lawful P := by
  cases r with
  | ok a => exact pure (post a rfl)
  | error e => exact breakOff

theorem exactly {r : Except Decimal.Overflow α} (post : ∀ a, r = .ok a → P a) :
    (Task.exactly r : Task ε α).Lawful P := by
  cases r with
  | ok a => exact pure (post a rfl)
  | error e => exact halt

theorem found {o : Option α} (post : ∀ a, o = some a → P a) : (Task.found e o).Lawful P := by
  cases o with
  | some a => exact pure (post a rfl)
  | none => exact refuse

theorem told {f : ε → δ} (lawful : task.Lawful P) : (task.told f).Lawful P := by
  refine Flow.Lawful.bind lawful ?_
  rintro (h | a) post
  · exact .done (by rintro _ ⟨⟩)
  · exact .done (by rintro _ ⟨⟩; exact post a rfl)

theorem attempt (lawful : task.Lawful P) : (task.attempt : Task δ _).Lawful fun _ => True := by
  refine Flow.Lawful.bind lawful ?_
  rintro ((_ | _) | _) _
  · exact .done fun _ _ => trivial
  · exact .done fun _ _ => trivial
  · exact .done fun _ _ => trivial

theorem ask {question : Question α} (post : ∀ a, P a) : (Task.ask question : Task ε α).Lawful P :=
  Flow.Lawful.ask fun _ => .done fun a _ => post a

theorem step {act : Server → α × Server} (advances : ∀ s : Server, s.Honest → s.Advances (act s).2)
    (post : ∀ a, P a) : (Task.step act : Task ε α).Lawful P :=
  Flow.Lawful.step advances fun _ _ => .done fun a _ => post a

theorem now {P : Instant → Prop} (post : ∀ a, P a) : (Task.now : Task ε Instant).Lawful P :=
  step (fun _ honest => ⟨honest, fun calm => ⟨calm.1, calm.2, calm.3⟩, .refl _, .same⟩) post

theorem report {P : Unit → Prop} (post : P ()) : (Task.report event : Task ε Unit).Lawful P :=
  step (fun _ honest => ⟨honest, fun calm => ⟨calm.1, calm.2, calm.3⟩, .refl _, .same⟩) fun _ => post

theorem report_then {f : Unit → Task ε α} (rest : (f ()).Lawful P) :
    (Task.report event >>= f).Lawful P := after (report trivial) fun _ => rest

theorem acts {E : Gauge → Tables → Halt ε → Prop}
    {Q : Gauge → Tables → α → Gauge → Option Tables → Prop} (acts : task.Acts E Q)
    (within : ∀ g t a g' p, Q g t a g' p → Within P g t a g' p) : task.Lawful P := by
  obtain ⟨act, same, ends⟩ := acts
  unfold Task.Lawful
  rw [same]
  refine Flow.Lawful.step (fun s honest => ?_) (fun s honest => .done fun a ok => ?_)
  · have ended := ends s honest
    refine ⟨ended.honest, ended.calm, ended.issued, ?_⟩
    rcases result : (act s).1 with h | a
    · rw [(ended.refusal h result).1]
      exact .same
    · obtain ⟨published, post, tables⟩ := ended.answer a result
      rw [tables]
      cases published with
      | none => exact .same
      | some t' => exact (within _ _ _ _ _ post).2 t' rfl
  · obtain ⟨_, post, _⟩ := (ends s honest).answer a ok
    exact (within _ _ _ _ _ post).1

theorem unit {w : Work ε α} {tell : StoreError → ε}
    (runs : ∀ g t, w.Runs (fun _ => True) g t (Within P g t)) : (Task.unit tell w).Lawful P :=
  acts (E := fun _ _ _ => True) (.unit runs) fun _ _ _ _ _ within => within

theorem reads (reads : task.Reads) : task.Lawful fun _ => True := by
  refine .acts reads ?_
  rintro _ _ _ _ _ rfl
  exact .kept trivial

theorem settle (c : SettleCall) :
    (External.settle c.id c.expected c.provider c.outcome).Lawful fun _ => True :=
  Flow.Lawful.settle c (Flow.bind_done _).symm fun _ => .done fun _ _ => trivial

end Task.Lawful
end Treasury
