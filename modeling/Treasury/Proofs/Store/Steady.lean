import Treasury.Proofs.Store.Logic
import Treasury.Proofs.Time.Instant

namespace Treasury

theorem Instant.le_next (t : Instant) : t ≤ t.next := le_of_lt t.lt_next

def Work.Steady (B : Breakdown → Prop) (w : Work ε α) : Prop :=
  ∀ s, s.server.clock ≤ (w.run.run s).2.server.clock ∧
    ∀ reason, (w.run.run s).1 = .error (.broken reason) → B reason

namespace Work.Steady

variable {B : Breakdown → Prop} {w : Work ε α}

theorem pure (a : α) : Steady B (Pure.pure a : Work ε α) :=
  fun _ => ⟨le_refl _, by rintro _ ⟨⟩⟩

theorem refuse (e : ε) : Steady B (Work.refuse e : Work ε α) :=
  fun _ => ⟨le_refl _, by rintro _ ⟨⟩⟩

theorem breakOff (allowed : B reason) : Steady B (Work.breakOff reason : Work ε α) :=
  fun _ => ⟨le_refl _, by rintro _ ⟨⟩; exact allowed⟩

theorem bind {w : Work ε β} {f : β → Work ε α} (first : w.Steady B) (rest : ∀ b, (f b).Steady B) :
    (w >>= f).Steady B := by
  intro s
  rw [run_bind]
  have before := first s
  rcases result : w.run.run s with ⟨h | b, s'⟩
  · rw [result] at before
    refine ⟨before.1, ?_⟩
    rintro reason ⟨⟩
    exact before.2 reason rfl
  · rw [result] at before
    exact ⟨le_trans before.1 (rest b s').1, (rest b s').2⟩

theorem told {w : Work δ α} (inner : w.Steady B) (f : δ → ε) : (w.told f).Steady B := by
  intro s
  have run : (w.told f).run.run s = ((w.run.run s).1.mapError (Halt.map f), (w.run.run s).2) := rfl
  rw [run]
  refine ⟨(inner s).1, fun reason broken => ?_⟩
  rcases result : (w.run.run s).1 with (e | earlier) | a <;> rw [result] at broken <;> cases broken
  exact (inner s).2 reason result

theorem exactly (r : Except Decimal.Overflow α) (allowed : ∀ operation, B (.overflow operation)) :
    (Work.exactly r : Work ε α).Steady B := by
  cases r with
  | ok a => exact pure a
  | error operation => exact breakOff (allowed operation)

theorem found (e : ε) (o : Option α) : (Work.found e o).Steady B := by
  cases o with
  | some a => exact pure a
  | none => exact refuse e

theorem changed {f : Server → β × Server} (on : ∀ s : Server, s.clock ≤ (f s).2.clock) :
    Steady B (Work.changeServer f : Work ε β) :=
  fun s => ⟨on s.server, by rintro _ ⟨⟩⟩

theorem now : Steady B (Work.now : Work ε Instant) := changed fun s => s.clock.le_next

theorem issue (pick : Supply → β) : Steady B (Work.issue pick : Work ε β) :=
  changed fun _ => le_refl _

theorem report (event : Log.Event) : Steady B (Work.report event : Work ε Unit) :=
  changed fun _ => le_refl _

theorem staged (f : Tables → α) : Steady B (Work.staged f : Work ε α) :=
  fun _ => ⟨le_refl _, by rintro _ ⟨⟩⟩

theorem stage (f : Tables → Tables) : Steady B (Work.stage f : Work ε Unit) :=
  fun _ => ⟨le_refl _, by rintro _ ⟨⟩⟩

theorem call {w : Work StoreError α} (inner : w.Steady B) : (Work.call m neutral w).Steady B := by
  refine bind (changed fun _ => le_refl _) fun struck => ?_
  rcases struck with _ | _ | _
  · exact inner
  · exact refuse _
  · exact pure _

theorem commit : Steady B Work.commit := by
  obtain ⟨w, same, run⟩ := commit_call
  rw [same]
  refine call fun s => ?_
  rw [run]
  split <;> exact ⟨le_refl _, by rintro _ ⟨⟩⟩

theorem stages {E : Halt ε → Prop} {Q : α → Gauge → Tables → Prop} (steady : w.Steady B)
    (stages : w.Stages E g t Q) :
    w.Stages E g t fun a g' t' => Q a g' t' ∧ g.clock ≤ g'.clock := by
  rintro s honest rfl same
  have left := stages s honest rfl same
  exact { left with answer := fun a ok => ⟨left.answer a ok, (steady s).1⟩ }

theorem read (m : Method) (neutral : α) (f : Tables → α) : (Store.read m neutral f).Steady B :=
  call (staged f)

theorem write (m : Method) (f : Tables → Tables) : (Store.write m f).Steady B := call (stage f)

end Work.Steady

theorem Server.unit_steady {B : Breakdown → Prop} {w : Work ε α} (steady : w.Steady B)
    (tell : StoreError → ε) (s : Server) :
    s.clock ≤ (s.unit tell w).2.clock ∧
      ∀ reason, (s.unit tell w).1 = .error (.broken reason) → B reason := by
  have begun : s.opening.2.clock = s.clock := by
    unfold Server.opening
    split <;>
    · rename_i struck
      exact congrArg (·.2.clock) struck.symm
  unfold Server.unit
  rcases opened : s.opening with ⟨e | _, s'⟩ <;> rw [opened] at begun
  · exact ⟨ge_of_eq begun, by rintro _ ⟨⟩⟩
  · exact begun ▸ steady ⟨s', s'.tables⟩

end Treasury
