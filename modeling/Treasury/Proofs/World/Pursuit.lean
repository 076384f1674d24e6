import Treasury.Proofs.World.Later
import Treasury.Proofs.World.Turns
import Treasury.Proofs.Service.Ensures

namespace Treasury

namespace Flow.Ensures

theorem later {flow : Flow α} {s s' : Server} {R : α → Server → Prop}
    (ensures : flow.Ensures Server.Later Server.Later s fun a s _ => R a s) (later : s.Later s')
    (stays : ∀ a s s', R a s → s.Later s' → R a s') :
    flow.Ensures Server.Later Server.Later s' fun a s _ => R a s := by
  cases flow with
  | done a => exact stays a s s' ensures later
  | step act next => exact fun s'' moved did => ensures s'' (later.trans moved) did
  | ask question next => exact fun s'' b moved => ensures s'' b (later.trans moved)

end Flow.Ensures

theorem Flow.Lawful.ensures {flow : Flow α} {P : α → Prop} {s : Server} (lawful : flow.Lawful P)
    (honest : s.Honest) :
    flow.Ensures Server.Later Server.Later s fun a s' _ => P a ∧ s'.Honest := by
  induction lawful generalizing s with
  | done post => exact ⟨post, honest⟩
  | step advances _ ih => exact fun s' came did => ih s' came.honest did.honest
  -- Of the call itself no more is needed than that it moves the server on.
  | settle c call _ ih =>
    rw [call]
    refine .bind (.mono (.moved (.refl honest) .trans fun moved => .refl moved.honest) ?_)
    exact fun r s' _ moved => ih r moved.honest
  | ask _ ih => exact fun s' b came => ih b came.honest

-- What the task answers, if it answers, while others move the server on.
def Task.Comes (task : Task ε α) (s : Server) (Q : α → Server → Prop) : Prop :=
  task.Ensures Server.Later Server.Later s (fun _ _ _ => True) fun a s' _ => Q a s'

namespace Task.Comes

variable {task : Task ε α} {s : Server} {Q Q' : α → Server → Prop}

theorem pure (post : Q a s) : Task.Comes (Pure.pure a : Task ε α) s Q := post

theorem refuse : Task.Comes (Task.refuse e : Task ε α) s Q := trivial

theorem bind {task : Task ε β} {f : β → Task ε α}
    (first : task.Comes s fun b s' => (f b).Comes s' Q) : (task >>= f).Comes s Q :=
  Task.Ensures.bind first

theorem mono (comes : task.Comes s Q) (weaker : ∀ a s', Q a s' → Q' a s') : task.Comes s Q' :=
  Task.Ensures.mono comes (fun a s' _ => weaker a s') fun _ _ _ _ => trivial

theorem checked {r : Except ε α} (post : ∀ a, r = .ok a → Q a s) : (Task.checked r).Comes s Q :=
  Task.Ensures.checked post fun _ _ => trivial

theorem exactly {r : Except Decimal.Overflow α} (post : ∀ a, r = .ok a → Q a s) :
    (Task.exactly r : Task ε α).Comes s Q :=
  Task.Ensures.exactly post fun _ _ => trivial

theorem told {task : Task δ α} {f : δ → ε} (comes : task.Comes s Q) : (task.told f).Comes s Q :=
  Task.Ensures.told comes

theorem report_then {f : Unit → Task ε α} (rest : ∀ s', s.Later s' → (f ()).Comes s' Q) :
    (Task.report event >>= f).Comes s Q :=
  .bind (Task.Ensures.report fun _ came did => rest _ (came.trans did))

theorem acts {E : Gauge → Tables → Halt ε → Prop}
    {P : Gauge → Tables → α → Gauge → Option Tables → Prop} (acts : task.Acts E P)
    (post : ∀ s₁ s₂ a p, s.Later s₁ → s₁.Later s₂ → P s₁.gauge s₁.tables a s₂.gauge p →
      s₂.tables = p.getD s₁.tables → Q a s₂) : task.Comes s Q :=
  Task.Ensures.acts acts (fun _ came => came.honest)
    (fun s₁ s₂ a p came did _ held tables => post s₁ s₂ a p came did held tables)
    fun _ _ _ _ _ _ _ _ => trivial

theorem settle (c : SettleCall) {Q : Transaction → Server → Prop}
    (post : ∀ s₁ s₂ r p, s.Later s₁ → s₁.Later s₂ → Settles c s₁.tables (.settled r) p → Q r s₂) :
    (External.settle c.id c.expected c.provider c.outcome).Comes s Q :=
  Task.Ensures.settle c (fun _ came => came.honest)
    (fun s₁ s₂ r p came did _ settles _ => post s₁ s₂ r p came did settles)
    fun _ _ _ _ _ _ _ => trivial

theorem later (honest : s.Honest) : task.Comes s fun _ s' => s.Later s' := by
  refine Flow.Ensures.mono (Flow.Ensures.moved (.refl honest) .trans fun moved => .refl moved.honest) ?_
  rintro (h | a) s' _ moved
  · trivial
  · exact moved

theorem lawful {P : α → Prop} (lawful : task.Lawful P) (honest : s.Honest) :
    task.Comes s fun a _ => P a := by
  refine Flow.Ensures.mono (Flow.Lawful.ensures lawful honest) ?_
  rintro (h | a) s' _ ⟨post, _⟩
  · trivial
  · exact post a rfl

end Task.Comes

namespace World

variable {w : World} {e : Event} {i : Nat} {R : α → Server → Prop}

-- The activity goes on to an answer for which `R` holds.
def Pursues (w : World) (i : Nat) (R : α → Server → Prop) : Prop :=
  ∃ flow : Flow α, w.activities[i]? = some ⟨flow⟩ ∧
    flow.Ensures Server.Later Server.Later w.server fun a s _ => R a s

-- An activity on its way to what it ensures is still on it after one event more.
theorem Pursues.take (pursues : w.Pursues i R) (honest : w.server.Honest)
    (later : w.server.Later (w.take e).server)
    (stays : ∀ a s s', R a s → s.Later s' → R a s') : (w.take e).Pursues i R := by
  obtain ⟨flow, there, ensures⟩ := pursues
  obtain ⟨a, goneOn, turned⟩ := turns there e
  cases turned with
  | waits => exact ⟨flow, goneOn, ensures.later later stays⟩
  | @acts _ _ act next _ taken =>
    rw [taken] at later goneOn ⊢
    exact ⟨next (act w.server).1, goneOn, ensures w.server (.refl honest) later⟩
  | @hears _ _ _ next answer taken =>
    rw [taken] at goneOn ⊢
    exact ⟨next answer, goneOn, ensures w.server answer (.refl honest)⟩

theorem Pursues.after (ordered : w.Ordered) (pursues : w.Pursues i R) (events : List Event)
    (distinct : (w.after events).server.gauge.Distinct) (forward : w.Always Forward events)
    (stays : ∀ a s s', R a s → s.Later s' → R a s') : (w.after events).Pursues i R := by
  induction events generalizing w with
  | nil => exact pursues
  | cons e rest ih =>
    have next := distinct.before ((ordered.sound.take e).1.issued rest)
    have later := ordered.later next forward.1
    exact ih (ordered.take next) (pursues.take ordered.sound.honest later stays) distinct forward.2

end World
end Treasury
