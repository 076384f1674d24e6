import Treasury.Proofs.Service.Operations
import Treasury.Proofs.Service.Settling

namespace Treasury

structure Server.Retains (s s' : Server) : Prop where
  honest : s'.Honest
  single : (s'.tables.transactions.map Transaction.id).Nodup
  records : ∀ id r, s.tables.transaction? id = some r →
    ∃ r', s'.tables.transaction? id = some r' ∧ r'.platform = r.platform

namespace Server.Retains

variable {s s' s'' : Server}

theorem refl (honest : s.Honest) (single : (s.tables.transactions.map Transaction.id).Nodup) :
    s.Retains s := ⟨honest, single, fun _ r stored => ⟨r, stored, rfl⟩⟩

theorem trans (first : s.Retains s') (second : s'.Retains s'') : s.Retains s'' := by
  refine ⟨second.honest, second.single, ?_⟩
  intro id r stored
  obtain ⟨r', stored', same⟩ := first.records id r stored
  obtain ⟨r'', stored'', same'⟩ := second.records id r' stored'
  exact ⟨r'', stored'', same'.trans same⟩

theorem again (retains : s.Retains s') : s'.Retains s' := refl retains.honest retains.single

end Server.Retains

def Server.Holds (s : Server) (id : TransactionId) (platform : Platform) : Prop :=
  ∃ r, s.tables.transaction? id = some r ∧ r.platform = platform

theorem Server.Holds.later {s s' : Server} {id : TransactionId} {platform : Platform}
    (holds : s.Holds id platform) (retains : s.Retains s') : s'.Holds id platform := by
  obtain ⟨r, stored, same⟩ := holds
  obtain ⟨r', stored', same'⟩ := retains.records id r stored
  exact ⟨r', stored', same'.trans same⟩

-- Every act of the process that changes the rows has an effect that it may have.
def Flow.Abides (effect : Gauge → Tables → Gauge → Tables → Prop) :
    Flow α → Server → (α → Server → Prop) → Prop
  | .done a, s, P => P a s
  | .step act next, s, P => ∀ s', s.Retains s' →
      ((act s').2.tables = s'.tables ∨
        effect s'.gauge s'.tables (act s').2.gauge (act s').2.tables) ∧
      (s'.Retains (act s').2 → (next (act s').1).Abides effect (act s').2 P)
  | .ask _ next, s, P => ∀ s' b, s.Retains s' → (next b).Abides effect s' P

namespace Flow.Abides

variable {effect : Gauge → Tables → Gauge → Tables → Prop} {flow : Flow α} {s s' : Server}
  {P Q : α → Server → Prop}

theorem mono (abides : flow.Abides effect s P) (weaker : ∀ a s', P a s' → Q a s') :
    flow.Abides effect s Q := by
  induction flow generalizing s with
  | done a => exact weaker a s abides
  | step act next ih =>
    intro s' came
    obtain ⟨does, rest⟩ := abides s' came
    exact ⟨does, fun kept => ih _ (rest kept)⟩
  | ask question next ih => exact fun s' b came => ih b (abides s' b came)

theorem bind {f : α → Flow β} {Q : β → Server → Prop}
    (first : flow.Abides effect s fun a s' => (f a).Abides effect s' Q) :
    (flow.bind f).Abides effect s Q := by
  induction flow generalizing s with
  | done a => exact first
  | step act next ih =>
    intro s' came
    obtain ⟨does, rest⟩ := first s' came
    exact ⟨does, fun kept => ih _ (rest kept)⟩
  | ask question next ih => exact fun s' b came => ih b (first s' b came)

theorem moved (abides : flow.Abides effect s P) (start : s.Retains s) :
    flow.Abides effect s fun a s' => P a s' ∧ s.Retains s' := by
  induction flow generalizing s with
  | done a => exact ⟨abides, start⟩
  | step act next ih =>
    intro s' came
    obtain ⟨does, rest⟩ := abides s' came
    refine ⟨does, fun kept => (ih _ (rest kept) kept.again).mono ?_⟩
    intro a s'' ended
    exact ⟨ended.1, came.trans (kept.trans ended.2)⟩
  | ask question next ih =>
    intro s' b came
    refine (ih b (abides s' b came) came.again).mono ?_
    intro a s'' ended
    exact ⟨ended.1, came.trans ended.2⟩

theorem later (abides : flow.Abides effect s fun _ _ => True) (retains : s.Retains s') :
    flow.Abides effect s' fun _ _ => True := by
  cases flow with
  | done a => trivial
  | step act next => exact fun s'' came => abides s'' (retains.trans came)
  | ask question next => exact fun s'' b came => abides s'' b (retains.trans came)

end Flow.Abides

-- `P` holds of an answer.
def Task.Abides (effect : Gauge → Tables → Gauge → Tables → Prop) (task : Task ε α) (s : Server)
    (P : α → Server → Prop) : Prop :=
  task.run.Abides effect s fun r s' => ∀ a, r = .ok a → P a s'

namespace Task.Abides

variable {effect : Gauge → Tables → Gauge → Tables → Prop} {task : Task ε α} {s : Server}
  {P : α → Server → Prop}

theorem pure (post : P a s) : Task.Abides effect (Pure.pure a : Task ε α) s P := by
  intro b same
  cases same
  exact post

theorem halt {h : Halt ε} : Task.Abides effect (throw h : Task ε α) s P := nofun

theorem refuse : Task.Abides effect (Task.refuse e : Task ε α) s P := halt

theorem breakOff : Task.Abides effect (Task.breakOff reason : Task ε α) s P := halt

theorem bind {task : Task ε β} {f : β → Task ε α} {Q : β → Server → Prop}
    (first : task.Abides effect s Q) (rest : ∀ b s', Q b s' → (f b).Abides effect s' P) :
    (task >>= f).Abides effect s P := by
  refine Flow.Abides.bind (first.mono ?_)
  intro r s' post
  cases r with
  | error h => exact nofun
  | ok b => exact rest b s' (post b rfl)

theorem after {task : Task ε β} {f : β → Task ε α} (first : task.Abides effect s fun _ _ => True)
    (rest : ∀ b s', (f b).Abides effect s' P) : (task >>= f).Abides effect s P :=
  bind first fun b s' _ => rest b s'

theorem later {task : Task ε β} {f : β → Task ε α} (start : s.Retains s)
    (first : task.Abides effect s fun _ _ => True)
    (rest : ∀ b s', s.Retains s' → (f b).Abides effect s' P) : (task >>= f).Abides effect s P := by
  refine bind (Q := fun _ s' => s.Retains s') ?_ rest
  exact (Flow.Abides.moved first start).mono fun _ _ ended _ _ => ended.2

theorem checked {r : Except ε α} (post : ∀ a, r = .ok a → P a s) : (Task.checked r).Abides effect s P := by
  cases r with
  | ok a => exact pure (post a rfl)
  | error e => exact refuse

theorem settled {r : Except Breakdown α} :
    (Task.settled r : Task ε α).Abides effect s fun _ _ => True := by
  cases r with
  | ok a => exact pure trivial
  | error e => exact breakOff

theorem exactly {r : Except Decimal.Overflow α} :
    (Task.exactly r : Task ε α).Abides effect s fun _ _ => True := by
  cases r with
  | ok a => exact pure trivial
  | error e => exact halt

theorem found {o : Option α} : (Task.found e o).Abides effect s fun _ _ => True := by
  cases o with
  | some a => exact pure trivial
  | none => exact refuse

theorem told {f : ε → δ} (abides : task.Abides effect s P) : (task.told f).Abides effect s P := by
  refine Flow.Abides.bind (Flow.Abides.mono abides ?_)
  intro r s' post
  cases r with
  | error h => exact nofun
  | ok a =>
    intro b same
    cases same
    exact post a rfl

theorem attempt (abides : task.Abides effect s fun _ _ => True) :
    (task.attempt : Task δ _).Abides effect s fun _ _ => True := by
  refine Flow.Abides.bind (Flow.Abides.mono abides ?_)
  intro r s' _
  rcases r with (_ | _) | _ <;> exact fun _ _ => trivial

theorem ask {question : Question α} : (Task.ask question : Task ε α).Abides effect s fun _ _ => True :=
  fun _ _ _ _ _ => trivial

theorem acts {E : Gauge → Tables → Halt ε → Prop}
    {Q : Gauge → Tables → α → Gauge → Option Tables → Prop} (acts : task.Acts E Q)
    (does : ∀ s₁ a g' t', s.Retains s₁ → Q s₁.gauge s₁.tables a g' (some t') → t' ≠ s₁.tables →
      effect s₁.gauge s₁.tables g' t')
    (post : ∀ s₁ s₂ a p, s.Retains s₁ → s₁.Retains s₂ → Q s₁.gauge s₁.tables a s₂.gauge p →
      s₂.tables = p.getD s₁.tables → P a s₂) : task.Abides effect s P := by
  obtain ⟨act, same, ends⟩ := acts
  unfold Task.Abides
  rw [same]
  intro s₁ came
  have ended := ends s₁ came.honest
  refine ⟨?_, fun kept a ok => ?_⟩
  · rcases result : (act s₁).1 with h | a
    · exact .inl (ended.refusal h result).1
    · obtain ⟨p, answer, tables⟩ := ended.answer a result
      cases p with
      | none => exact .inl tables
      | some t' =>
        rw [tables]
        exact (em (t' = s₁.tables)).imp_right (does s₁ a _ t' came answer)
  · obtain ⟨p, answer, tables⟩ := ended.answer a ok
    exact post s₁ _ a p came kept answer tables

theorem unit {E : Gauge → Tables → Halt ε → Prop}
    {Q : Gauge → Tables → α → Gauge → Option Tables → Prop} (unit : task.Acts E Q)
    (does : ∀ g t a g' t', Q g t a g' (some t') → t' ≠ t → effect g t g' t') :
    task.Abides effect s fun _ _ => True :=
  acts unit (fun _ _ _ _ _ => does _ _ _ _ _) fun _ _ _ _ _ _ _ _ => trivial

theorem reads (reads : task.Reads) : task.Abides effect s fun _ _ => True :=
  unit reads fun _ _ _ _ _ => nofun

theorem step {act : Server → α × Server} (same : ∀ s, (act s).2.tables = s.tables) :
    (Task.step act : Task ε α).Abides effect s fun _ _ => True := by
  intro s' _
  exact ⟨.inl (same s'), fun _ _ _ => trivial⟩

theorem report : (Task.report event : Task ε Unit).Abides effect s fun _ _ => True :=
  step fun _ => rfl

theorem now : (Task.now : Task ε Instant).Abides effect s fun _ _ => True := step fun _ => rfl

theorem settle (c : SettleCall)
    (does : ∀ s₁ r g' t', s.Retains s₁ → Settles c s₁.tables (.settled r) (some t') →
      effect s₁.gauge s₁.tables g' t') :
    (External.settle c.id c.expected c.provider c.outcome).Abides effect s fun _ _ => True := by
  change Flow.Abides effect c.flow s _
  rw [c.flow_eq]
  intro s₁ came
  have ended : s₁.Ended (c.Refused s₁.tables) (fun answer _ p => Settles c s₁.tables answer p)
      (c.act s₁).1 (c.act s₁).2 := s₁.unit_ended c.work_runs came.honest
  rcases result : (c.act s₁).1 with h | answer
  · exact ⟨.inl (ended.refusal h result).1, fun _ _ _ => trivial⟩
  · obtain ⟨p, settles, tables⟩ := ended.answer answer result
    -- A settlement is never outrun.
    cases answer with
    | outrun => cases settles
    | settled r =>
      refine ⟨?_, fun _ _ _ => trivial⟩
      cases p with
      | none => exact .inl tables
      | some t' =>
        rw [tables]
        exact .inr (does s₁ r _ t' came settles)

end Task.Abides
end Treasury
