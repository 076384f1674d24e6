import Treasury.Store.Query

namespace Treasury

structure Gauge where
  supply : Supply
  clock : Instant

def Gauge.Before (g g' : Gauge) : Prop := g.supply.issued ≤ g'.supply.issued

theorem Gauge.Before.refl (g : Gauge) : g.Before g := Nat.le_refl _

theorem Gauge.Before.trans (first : Gauge.Before g g') (second : g'.Before g'') : g.Before g'' :=
  Nat.le_trans first second

namespace Server

def gauge (s : Server) : Gauge := ⟨s.supply, s.clock⟩

-- A fault that waits makes a call fail. Only a store under test drops a call and says nothing.
def Honest (s : Server) : Prop := ∀ f ∈ s.faults, ∃ e, f.strike = .refuse e

-- Nothing is set up against this server.
structure Calm (s : Server) : Prop where
  online : s.unavailable = false
  commits : s.failNextCommit = false
  faultless : s.faults = []

theorem Calm.honest {s : Server} (calm : s.Calm) : s.Honest := by
  intro f mem
  rw [calm.faultless] at mem
  cases mem

-- How a unit of work ended. `E` holds of what a calm server refuses with, and `Q` of an answer,
-- what was given out by then and the rows that were published, if any were.
structure Ended (s : Server) (E : Halt ε → Prop) (Q : α → Gauge → Option Tables → Prop)
    (r : Except (Halt ε) α) (s' : Server) : Prop where
  honest : s'.Honest
  calm : s.Calm → s'.Calm
  issued : s.gauge.Before s'.gauge
  answer : ∀ a, r = .ok a → ∃ published, Q a s'.gauge published ∧
    s'.tables = published.getD s.tables
  refusal : ∀ h, r = .error h → s'.tables = s.tables ∧ (s.Calm → E h)

end Server

-- What meets a call on an honest server is a refusal, and the faults left over are honest.
theorem Fault.meet_honest {m : Method} {faults : List Fault}
    (honest : ∀ f ∈ faults, ∃ e, f.strike = .refuse e) :
    (∀ struck, (Fault.meet m faults).1 = some struck → ∃ e, struck = .refuse e) ∧
      ∀ f ∈ (Fault.meet m faults).2, ∃ e, f.strike = .refuse e := by
  induction faults with
  | nil => simp [Fault.meet]
  | cons head rest ih =>
    have later := ih fun f mem => honest f (List.mem_cons_of_mem _ mem)
    have first := honest head List.mem_cons_self
    by_cases waits : head.method = m
    · cases skip : head.skip with
      | zero =>
        simp only [Fault.meet, waits, skip, if_true]
        refine ⟨?_, fun f mem => honest f (List.mem_cons_of_mem _ mem)⟩
        rintro struck ⟨⟩
        exact first
      | succ left =>
        simp only [Fault.meet, waits, skip, if_true]
        refine ⟨by rintro _ ⟨⟩, ?_⟩
        intro f mem
        rcases List.mem_cons.mp mem with rfl | mem
        · exact first
        · exact honest f (List.mem_cons_of_mem _ mem)
    · simp only [Fault.meet, waits, if_false]
      refine ⟨later.1, ?_⟩
      intro f mem
      rcases List.mem_cons.mp mem with rfl | mem
      · exact first
      · exact later.2 f mem

namespace Work

-- The state after a piece of work, beside the state before it. `E` holds of what a calm server
-- refuses with, and `Q` of an answer, what was given out by then and the rows staged by then.
structure Left (E : Halt ε → Prop) (Q : α → Gauge → Tables → Prop) (s : Session)
    (r : Except (Halt ε) α × Session) : Prop where
  tables : r.2.server.tables = s.server.tables
  honest : r.2.server.Honest
  calm : s.server.Calm → r.2.server.Calm
  issued : s.server.gauge.Before r.2.server.gauge
  answer : ∀ a, r.1 = .ok a → Q a r.2.server.gauge r.2.staged
  refusal : ∀ h, r.1 = .error h → s.server.Calm → E h

-- Work that only stages: the committed rows stay, however it ends.
def Stages (w : Work ε α) (E : Halt ε → Prop) (g : Gauge) (t : Tables)
    (Q : α → Gauge → Tables → Prop) : Prop :=
  ∀ s : Session, s.server.Honest → s.server.gauge = g → s.staged = t →
    Left E Q s (w.run.run s)

theorem run_bind (w : Work ε α) (f : α → Work ε β) (s : Session) :
    (w >>= f).run.run s =
      match w.run.run s with
      | (.ok a, s') => (f a).run.run s'
      | (.error h, s') => (.error h, s') := by
  change (ExceptT.bindCont f (w.run.run s).1).run (w.run.run s).2 = _
  rcases w.run.run s with ⟨a | h, s'⟩ <;> rfl

theorem run_strike (m : Method) (s : Session) :
    (Work.changeServer (Server.strike? m) : Work StoreError _).run.run s =
      (.ok (Fault.meet m s.server.faults).1,
        { s with server := { s.server with faults := (Fault.meet m s.server.faults).2 } }) := rfl

-- A call that is struck was not calm, and one that passes does its work.
theorem run_call (m : Method) (neutral : α) (w : Work StoreError α) {s : Session}
    (honest : s.server.Honest) :
    (∃ e faults, Server.Honest { s.server with faults } ∧ ¬ s.server.Calm ∧
      (Work.call m neutral w).run.run s =
        (.error (.refused e), { s with server := { s.server with faults } })) ∨
    ∃ faults, Server.Honest { s.server with faults } ∧
      (s.server.Calm → Server.Calm { s.server with faults }) ∧
      (Work.call m neutral w).run.run s = w.run.run { s with server := { s.server with faults } } := by
  obtain ⟨strikes, rest⟩ := Fault.meet_honest (m := m) honest
  rcases met : Fault.meet m s.server.faults with ⟨struck, faults⟩
  rw [met] at strikes rest
  have calmly : s.server.Calm → (struck, faults) = (none, []) := by
    intro calm
    rw [← met, calm.faultless]
    rfl
  rw [Work.call, run_bind, run_strike, met]
  cases struck with
  | none =>
    refine .inr ⟨faults, rest, fun calm => ⟨calm.1, calm.2, ?_⟩, rfl⟩
    exact congrArg Prod.snd (calmly calm)
  | some strike =>
    obtain ⟨e, rfl⟩ := strikes strike rfl
    refine .inl ⟨e, faults, rest, fun calm => ?_, rfl⟩
    cases congrArg Prod.fst (calmly calm)

theorem commit_call : ∃ w : Work StoreError Unit, Work.commit = Work.call .commit () w ∧
    ∀ s : Session, w.run.run s =
      if s.server.failNextCommit then
        (.error (.refused (.unavailable "commit failed")),
          { s with server := { s.server with failNextCommit := false } })
      else (.ok (), { s with server := { s.server with tables := s.staged } }) := by
  refine ⟨_, rfl, fun s => ?_⟩
  rw [run_bind]
  change (if s.server.failNextCommit = true then _ else _ : Work _ _).run.run s = _
  split <;> rfl

namespace Stages

variable {E : Halt ε → Prop} {w : Work ε α} {g : Gauge} {t : Tables}
  {Q Q' : α → Gauge → Tables → Prop}

theorem mono (stages : w.Stages E g t Q) (weaker : ∀ a g' t', g.Before g' → Q a g' t' → Q' a g' t') :
    w.Stages E g t Q' := by
  rintro s honest rfl same
  have left := stages s honest rfl same
  exact { left with answer := fun a ok => weaker _ _ _ left.issued (left.answer a ok) }

theorem pure (post : Q a g t) : Stages (Pure.pure a : Work ε α) E g t Q := by
  rintro s honest rfl rfl
  exact ⟨rfl, honest, id, .refl _, by rintro _ ⟨⟩; exact post, by rintro _ ⟨⟩⟩

theorem bind {f : β → Work ε α} {w : Work ε β}
    (first : w.Stages E g t fun b g' t' => (f b).Stages E g' t' Q) : (w >>= f).Stages E g t Q := by
  rintro s honest rfl rfl
  have left := first s honest rfl rfl
  rw [run_bind]
  rcases result : w.run.run s with ⟨b | b, s'⟩
  · rw [result] at left
    exact ⟨left.tables, left.honest, left.calm, left.issued, by rintro _ ⟨⟩, by
      rintro _ ⟨⟩ calm; exact left.refusal _ rfl calm⟩
  · rw [result] at left
    have next := left.answer b rfl s' left.honest rfl rfl
    exact ⟨next.tables.trans left.tables, next.honest, fun calm => next.calm (left.calm calm),
      left.issued.trans next.issued, next.answer, fun h stopped calm =>
        next.refusal h stopped (left.calm calm)⟩

theorem halt (allowed : E h) : Stages (throw h : Work ε α) E g t Q := by
  rintro s honest rfl rfl
  exact ⟨rfl, honest, id, .refl _, by rintro _ ⟨⟩, by rintro _ ⟨⟩ _; exact allowed⟩

theorem refuse (allowed : E (.refused e)) : Stages (Work.refuse e : Work ε α) E g t Q := halt allowed

theorem told {f : δ → ε} {w : Work δ α} (inner : w.Stages (fun h => E (h.map f)) g t Q) :
    (w.told f).Stages E g t Q := by
  rintro s honest rfl rfl
  have left := inner s honest rfl rfl
  have run : (w.told f).run.run s =
      ((w.run.run s).1.mapError (Halt.map f), (w.run.run s).2) := by
    change ((Except.mapError _ <$> w.run).run s) = _
    rfl
  rw [run]
  rcases result : w.run.run s with ⟨h | a, s'⟩
  · rw [result] at left
    exact ⟨left.tables, left.honest, left.calm, left.issued, by rintro _ ⟨⟩, by
      rintro _ ⟨⟩ calm; exact left.refusal h rfl calm⟩
  · rw [result] at left
    exact ⟨left.tables, left.honest, left.calm, left.issued, by
      rintro _ ⟨⟩; exact left.answer a rfl, by rintro _ ⟨⟩⟩

theorem settled {r : Except (Halt ε) α} (ok : ∀ a, r = .ok a → Q a g t)
    (error : ∀ h, r = .error h → E h) : (Work.settled r).Stages E g t Q := by
  cases r with
  | ok a => exact pure (ok a rfl)
  | error h => exact halt (error h rfl)

theorem exactly {r : Except Decimal.Overflow α} (ok : ∀ a, r = .ok a → Q a g t)
    (error : ∀ operation, r = .error operation → E (.broken (.overflow operation))) :
    (Work.exactly r : Work ε α).Stages E g t Q := by
  cases r with
  | ok a => exact pure (ok a rfl)
  | error operation => exact halt (error operation rfl)

theorem checked {r : Except ε α} (ok : ∀ a, r = .ok a → Q a g t)
    (error : ∀ e, r = .error e → E (.refused e)) : (Work.checked r).Stages E g t Q := by
  cases r with
  | ok a => exact pure (ok a rfl)
  | error e => exact halt (error e rfl)

theorem found {e : ε} {o : Option α} (there : ∀ a, o = some a → Q a g t)
    (missing : o = none → E (.refused e)) : (Work.found e o).Stages E g t Q := by
  cases o with
  | some a => exact pure (there a rfl)
  | none => exact halt (missing rfl)

theorem staged {f : Tables → α} (post : Q (f t) g t) : (Work.staged f : Work ε α).Stages E g t Q := by
  rintro s honest rfl rfl
  exact ⟨rfl, honest, id, .refl _, by rintro _ ⟨⟩; exact post, by rintro _ ⟨⟩⟩

theorem stage {f : Tables → Tables} {Q : Unit → Gauge → Tables → Prop} (post : Q () g (f t)) :
    (Work.stage f : Work ε Unit).Stages E g t Q := by
  rintro s honest rfl rfl
  exact ⟨rfl, honest, id, .refl _, by rintro _ ⟨⟩; exact post, by rintro _ ⟨⟩⟩

theorem now {Q : Instant → Gauge → Tables → Prop} (post : Q g.clock { g with clock := g.clock.next } t) :
    (Work.now : Work ε Instant).Stages E g t Q := by
  rintro s honest rfl rfl
  exact ⟨rfl, honest, fun calm => ⟨calm.1, calm.2, calm.3⟩, .refl _, by rintro _ ⟨⟩; exact post, by
    rintro _ ⟨⟩⟩

theorem issue {pick : Supply → α} (post : Q (pick g.supply) { g with supply := g.supply.next } t) :
    (Work.issue pick : Work ε α).Stages E g t Q := by
  rintro s honest rfl rfl
  exact ⟨rfl, honest, fun calm => ⟨calm.1, calm.2, calm.3⟩, Nat.le_succ _, by
    rintro _ ⟨⟩; exact post, by rintro _ ⟨⟩⟩

theorem report {event : Log.Event} {Q : Unit → Gauge → Tables → Prop} (post : Q () g t) :
    (Work.report event : Work ε Unit).Stages E g t Q := by
  rintro s honest rfl rfl
  exact ⟨rfl, honest, fun calm => ⟨calm.1, calm.2, calm.3⟩, .refl _, by rintro _ ⟨⟩; exact post, by
    rintro _ ⟨⟩⟩

theorem discard {w : Work ε β} {Q : Unit → Gauge → Tables → Prop}
    (inner : w.Stages E g t fun _ => Q ()) : (Functor.discard w).Stages E g t Q :=
  bind (inner.mono fun _ _ _ _ post => pure post)

theorem call {w : Work StoreError α} {E : Halt StoreError → Prop} (inner : w.Stages E g t Q) :
    (Work.call m neutral w).Stages E g t Q := by
  rintro s honest rfl rfl
  obtain ⟨e, faults, rest, struck, run⟩ | ⟨faults, rest, calmly, run⟩ :=
    run_call m neutral w honest
  · rw [run]
    exact ⟨rfl, rest, fun calm => absurd calm struck, .refl _, by rintro _ ⟨⟩, by
      rintro _ ⟨⟩ calm; exact absurd calm struck⟩
  · rw [run]
    have left := inner { s with server := { s.server with faults } } rest rfl rfl
    exact { left with
      calm := fun calm => left.calm (calmly calm)
      refusal := fun h stopped calm => left.refusal h stopped (calmly calm) }

end Stages

def Runs (w : Work ε α) (E : Halt ε → Prop) (g : Gauge) (t : Tables)
    (Q : α → Gauge → Option Tables → Prop) : Prop :=
  ∀ s : Session, s.server.Honest → s.server.gauge = g → s.staged = t →
    s.server.Ended E Q (w.run.run s).1 (w.run.run s).2.server

-- Work that cannot end early and touches no row, such as what follows a commit.
def Surely (w : Work ε α) (g : Gauge) (Q : α → Gauge → Prop) : Prop :=
  ∀ s : Session, s.server.Honest → s.server.gauge = g →
    ∃ a server, w.run.run s = (.ok a, { s with server }) ∧ server.tables = s.server.tables ∧
      server.Honest ∧ (s.server.Calm → server.Calm) ∧ s.server.gauge.Before server.gauge ∧
      Q a server.gauge

namespace Surely

variable {w : Work ε α} {g : Gauge} {Q : α → Gauge → Prop}

theorem pure (post : Q a g) : Surely (Pure.pure a : Work ε α) g Q := by
  rintro s honest rfl
  exact ⟨a, s.server, rfl, rfl, honest, id, .refl _, post⟩

theorem report_then {event : Log.Event} {f : Unit → Work ε α} (next : (f ()).Surely g Q) :
    (Work.report event >>= f).Surely g Q := by
  rintro s honest rfl
  obtain ⟨a, server, run, same, still, calmly, later, post⟩ :=
    next { s with server := (Server.report event s.server).2 } honest rfl
  exact ⟨a, server, run, same, still, fun calm => calmly ⟨calm.1, calm.2, calm.3⟩, later, post⟩

theorem now_then {f : Instant → Work ε α}
    (next : (f g.clock).Surely { g with clock := g.clock.next } Q) :
    (Work.now >>= f).Surely g Q := by
  rintro s honest rfl
  obtain ⟨a, server, run, same, still, calmly, later, post⟩ :=
    next { s with server := (Server.now s.server).2 } honest rfl
  exact ⟨a, server, run, same, still, fun calm => calmly ⟨calm.1, calm.2, calm.3⟩, later, post⟩

end Surely

namespace Runs

variable {E : Halt ε → Prop} {w : Work ε α} {g : Gauge} {t : Tables}
  {Q Q' : α → Gauge → Option Tables → Prop}

theorem mono (runs : w.Runs E g t Q) (weaker : ∀ a g' p, g.Before g' → Q a g' p → Q' a g' p) :
    w.Runs E g t Q' := by
  rintro s honest rfl same
  have ended := runs s honest rfl same
  refine { ended with answer := fun a ok => ?_ }
  obtain ⟨published, post, tables⟩ := ended.answer a ok
  exact ⟨published, weaker _ _ _ ended.issued post, tables⟩

theorem excused {E' : Halt ε → Prop} (runs : w.Runs E g t Q) (weaker : ∀ h, E h → E' h) :
    w.Runs E' g t Q := by
  rintro s honest rfl same
  have ended := runs s honest rfl same
  refine { ended with refusal := fun h stopped => ?_ }
  obtain ⟨tables, why⟩ := ended.refusal h stopped
  exact ⟨tables, fun calm => weaker h (why calm)⟩

theorem keep (stages : w.Stages E g t fun a g' _ => Q a g' none) : w.Runs E g t Q := by
  rintro s honest rfl rfl
  have left := stages s honest rfl rfl
  exact ⟨left.honest, left.calm, left.issued, fun a ok => ⟨none, left.answer a ok, left.tables⟩,
    fun h stopped => ⟨left.tables, left.refusal h stopped⟩⟩

theorem pure (post : Q a g none) : Runs (Pure.pure a : Work ε α) E g t Q := keep (.pure post)

theorem refuse (allowed : E (.refused e)) : Runs (Work.refuse e : Work ε α) E g t Q :=
  keep (.refuse allowed)

theorem bind {f : β → Work ε α} {w : Work ε β}
    (first : w.Stages E g t fun b g' t' => (f b).Runs E g' t' Q) : (w >>= f).Runs E g t Q := by
  rintro s honest rfl rfl
  have left := first s honest rfl rfl
  rw [run_bind]
  rcases result : w.run.run s with ⟨b | b, s'⟩
  · rw [result] at left
    exact ⟨left.honest, left.calm, left.issued, by rintro _ ⟨⟩, by
      rintro _ ⟨⟩; exact ⟨left.tables, left.refusal _ rfl⟩⟩
  · rw [result] at left
    have next := left.answer b rfl s' left.honest rfl rfl
    refine ⟨next.honest, fun calm => next.calm (left.calm calm), left.issued.trans next.issued,
      fun a ok => ?_, fun h stopped => ?_⟩
    · obtain ⟨published, post, tables⟩ := next.answer a ok
      exact ⟨published, post, by rw [tables, left.tables]⟩
    · obtain ⟨tables, allowed⟩ := next.refusal h stopped
      exact ⟨tables.trans left.tables, fun calm => allowed (left.calm calm)⟩

theorem after {f : β → Work ε α} {w : Work ε β}
    (first : w.Runs E g t fun b g' p => (f b).Surely g' fun a g'' => Q a g'' p) :
    (w >>= f).Runs E g t Q := by
  rintro s honest rfl rfl
  have ended := first s honest rfl rfl
  rw [run_bind]
  rcases result : w.run.run s with ⟨b | b, s'⟩
  · rw [result] at ended
    exact ⟨ended.honest, ended.calm, ended.issued, by rintro _ ⟨⟩, by
      rintro _ ⟨⟩; exact ended.refusal _ rfl⟩
  · rw [result] at ended
    obtain ⟨published, sure, tables⟩ := ended.answer b rfl
    obtain ⟨a, server, run, same, still, calmly, later, post⟩ := sure s' ended.honest rfl
    dsimp only
    rw [run]
    refine ⟨still, fun calm => calmly (ended.calm calm), ended.issued.trans later, ?_, by
      rintro _ ⟨⟩⟩
    rintro _ ⟨⟩
    exact ⟨published, post, same.trans tables⟩

theorem told {f : δ → ε} {w : Work δ α} (inner : w.Runs (fun h => E (h.map f)) g t Q) :
    (w.told f).Runs E g t Q := by
  rintro s honest rfl rfl
  have ended := inner s honest rfl rfl
  have run : (w.told f).run.run s = ((w.run.run s).1.mapError (Halt.map f), (w.run.run s).2) := rfl
  rw [run]
  rcases result : w.run.run s with ⟨h | a, s'⟩
  · rw [result] at ended
    exact ⟨ended.honest, ended.calm, ended.issued, by rintro _ ⟨⟩, by
      rintro _ ⟨⟩; exact ended.refusal h rfl⟩
  · rw [result] at ended
    exact ⟨ended.honest, ended.calm, ended.issued, by
      rintro _ ⟨⟩; exact ended.answer a rfl, by rintro _ ⟨⟩⟩

theorem call {w : Work StoreError α} {E : Halt StoreError → Prop} (inner : w.Runs E g t Q) :
    (Work.call m neutral w).Runs E g t Q := by
  rintro s honest rfl rfl
  obtain ⟨e, faults, rest, struck, run⟩ | ⟨faults, rest, calmly, run⟩ :=
    run_call m neutral w honest
  · rw [run]
    exact ⟨rest, fun calm => absurd calm struck, .refl _, by rintro _ ⟨⟩, by
      rintro _ ⟨⟩; exact ⟨rfl, fun calm => absurd calm struck⟩⟩
  · rw [run]
    have ended := inner { s with server := { s.server with faults } } rest rfl rfl
    refine { ended with calm := fun calm => ended.calm (calmly calm), refusal := fun h stopped => ?_ }
    obtain ⟨tables, allowed⟩ := ended.refusal h stopped
    exact ⟨tables, fun calm => allowed (calmly calm)⟩

theorem commit {E : Halt StoreError → Prop} {Q : Unit → Gauge → Option Tables → Prop}
    (post : Q () g (some t)) : Work.commit.Runs E g t Q := by
  obtain ⟨w, same, run⟩ := commit_call
  rw [same]
  refine call ?_
  rintro s honest rfl rfl
  rw [run]
  split
  · rename_i fails
    have struck : ¬ s.server.Calm := fun calm => by simp [calm.commits] at fails
    exact ⟨honest, fun calm => absurd calm struck, .refl _, by rintro _ ⟨⟩, by
      rintro _ ⟨⟩; exact ⟨rfl, fun calm => absurd calm struck⟩⟩
  · exact ⟨honest, fun calm => ⟨calm.1, calm.2, calm.3⟩, .refl _, by
      rintro _ ⟨⟩; exact ⟨some s.staged, post, rfl⟩, by rintro _ ⟨⟩⟩

end Runs
end Work

-- A unit of work on a server, begun over the committed rows.
theorem Server.unit_ended {E : Halt ε → Prop} {Q : α → Gauge → Option Tables → Prop} {w : Work ε α}
    {refuse : StoreError → ε} {s : Server} (runs : w.Runs E s.gauge s.tables Q) (honest : s.Honest) :
    s.Ended E Q (s.unit refuse w).1 (s.unit refuse w).2 := by
  obtain ⟨strikes, rest⟩ := Fault.meet_honest (m := .begin) honest
  rcases met : Fault.meet .begin s.faults with ⟨struck, faults⟩
  rw [met] at strikes rest
  have calmly : s.Calm → (struck, faults) = (none, []) := by
    intro calm
    rw [← met, calm.faultless]
    rfl
  cases struck with
  | some strike =>
    obtain ⟨e, rfl⟩ := strikes strike rfl
    have never : ¬ s.Calm := fun calm => by cases congrArg Prod.fst (calmly calm)
    have run : s.unit refuse w = (.error (.refused (refuse e)), { s with faults }) := by
      simp only [Server.unit, Server.opening, Server.strike?, met]
    rw [run]
    exact ⟨rest, fun calm => absurd calm never, .refl _, by rintro _ ⟨⟩, by
      rintro _ ⟨⟩; exact ⟨rfl, fun calm => absurd calm never⟩⟩
  | none =>
    have emptied : s.Calm → faults = [] := fun calm => congrArg Prod.snd (calmly calm)
    cases offline : s.unavailable with
    | true =>
      have never : ¬ s.Calm := fun calm => by simp [calm.online] at offline
      have run : s.unit refuse w =
          (.error (.refused (refuse (.unavailable "memory store offline"))), { s with faults }) := by
        simp only [Server.unit, Server.opening, Server.strike?, met, offline, if_true]
      rw [run]
      exact ⟨rest, fun calm => absurd calm never, .refl _, by rintro _ ⟨⟩, by
        rintro _ ⟨⟩; exact ⟨rfl, fun calm => absurd calm never⟩⟩
    | false =>
      have run : s.unit refuse w =
          ((w.run.run ⟨{ s with faults }, s.tables⟩).1,
            (w.run.run ⟨{ s with faults }, s.tables⟩).2.server) := by
        simp only [Server.unit, Server.opening, Server.strike?, met, offline, Bool.false_eq_true,
          if_false]
        rfl
      rw [run]
      have ended := runs ⟨{ s with faults }, s.tables⟩ rest rfl rfl
      refine { ended with
        calm := fun calm => ended.calm ⟨calm.1, calm.2, emptied calm⟩
        refusal := fun h stopped => ?_ }
      obtain ⟨tables, allowed⟩ := ended.refusal h stopped
      exact ⟨tables, fun calm => allowed ⟨calm.1, calm.2, emptied calm⟩⟩

end Treasury
