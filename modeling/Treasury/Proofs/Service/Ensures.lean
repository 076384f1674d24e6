import Treasury.Proofs.Service.Settling

namespace Treasury

-- The provider calls that a question makes, each with the rows that are committed by then.
def Question.calls : Question β → Tables → List (Call × Tables)
  | .call c, t => [(c, t)]
  | .page _ _, _ => []

def Flow.calls (answer : {β : Type} → Question β → β) : Flow α → Server → List (Call × Tables)
  | .done _, _ => []
  | .step act next, s => (next (act s).1).calls answer (act s).2
  | .ask question next, s => question.calls s.tables ++ (next (answer question)).calls answer s

-- A provider call over these rows, and what came back.
structure Exchange where
  call : Call
  tables : Tables
  reply : Reply

def Exchange.asked (e : Exchange) : Call × Tables := (e.call, e.tables)

-- A reply that comes too late tells nothing.
def Reply.within (timeout : Nat) (reply : Reply) : Outcome :=
  if reply.delay.any (timeout < ·) then .unknown none else reply.outcome

def Question.heard : Question β → Tables → β → List Exchange
  | .call c, t, reply => [⟨c, t, reply⟩]
  | .page _ _, _, _ => []

def Flow.heard (answer : {β : Type} → Question β → β) : Flow α → Server → List Exchange
  | .done _, _ => []
  | .step act next, s => (next (act s).1).heard answer (act s).2
  | .ask question next, s =>
    question.heard s.tables (answer question) ++ (next (answer question)).heard answer s

theorem Question.map_asked (question : Question β) (t : Tables) (b : β) :
    (question.heard t b).map Exchange.asked = question.calls t := by
  cases question <;> rfl

theorem Flow.map_asked (answer : {β : Type} → Question β → β) (flow : Flow α) (s : Server) :
    (flow.heard answer s).map Exchange.asked = flow.calls answer s := by
  induction flow generalizing s with
  | done a => rfl
  | step act next ih => exact ih _ _
  | ask question next ih =>
    rw [heard, calls, List.map_append, question.map_asked, ih]

def Flow.Ensures (others own : Server → Server → Prop) :
    Flow α → Server → (α → Server → List Exchange → Prop) → Prop
  | .done a, s, P => P a s []
  | .step act next, s, P => ∀ s', others s s' → own s' (act s').2 →
      (next (act s').1).Ensures others own (act s').2 P
  | .ask question next, s, P => ∀ s' b, others s s' →
      (next b).Ensures others own s' fun a s'' heard => P a s'' (question.heard s'.tables b ++ heard)

namespace Flow.Ensures

variable {others own : Server → Server → Prop} {flow : Flow α} {s : Server}
  {P Q : α → Server → List Exchange → Prop}

theorem mono (ensures : flow.Ensures others own s P)
    (weaker : ∀ a s' heard, P a s' heard → Q a s' heard) : flow.Ensures others own s Q := by
  induction flow generalizing s P Q with
  | done a => exact weaker a s [] ensures
  | step act next ih => exact fun s' moved did => ih _ (ensures s' moved did) weaker
  | ask question next ih =>
    exact fun s' b moved => ih b (ensures s' b moved) fun a s'' heard => weaker a s'' _

theorem bind {f : α → Flow β} {Q : β → Server → List Exchange → Prop}
    (first : flow.Ensures others own s fun a s' heard =>
      (f a).Ensures others own s' fun b s'' more => Q b s'' (heard ++ more)) :
    (flow.bind f).Ensures others own s Q := by
  induction flow generalizing s Q with
  | done a => exact first
  | step act next ih => exact fun s' moved did => ih _ (first s' moved did)
  | ask question next ih =>
    refine fun s' b moved => ih b ((first s' b moved).mono fun a s'' heard rest => ?_)
    refine rest.mono fun _ _ more post => ?_
    rwa [List.append_assoc] at post

theorem moved {moves : Server → Server → Prop} (start : moves s s)
    (trans : ∀ {a b c}, moves a b → moves b c → moves a c) (refl : ∀ {a b}, moves a b → moves b b) :
    flow.Ensures moves moves s fun _ s' _ => moves s s' := by
  induction flow generalizing s with
  | done a => exact start
  | step act next ih =>
    refine fun s' came did => (ih _ (refl did)).mono fun _ _ _ went => ?_
    exact trans came (trans did went)
  | ask question next ih =>
    exact fun s' b came => (ih b (refl came)).mono fun _ _ _ went => trans came went

theorem alone (ensures : flow.Ensures Eq (fun _ _ => True) s P)
    (answer : {β : Type} → Question β → β) :
    P (flow.runAlone answer s).1 (flow.runAlone answer s).2 (flow.heard answer s) := by
  induction flow generalizing s P with
  | done a => exact ensures
  | step act next ih => exact ih _ (ensures s rfl trivial)
  | ask question next ih => exact ih _ (ensures s (answer question) rfl)

end Flow.Ensures

-- `E` holds of what the task ends early with, and `Q` of its answer.
def Task.Ensures (others own : Server → Server → Prop) (task : Task ε α) (s : Server)
    (E : Halt ε → Server → List Exchange → Prop)
    (Q : α → Server → List Exchange → Prop) : Prop :=
  Flow.Ensures others own task.run s fun r s' heard =>
    match r with
    | .ok a => Q a s' heard
    | .error h => E h s' heard

-- A server before and after one act, whatever the act did to the rows.
structure Server.Onward (s s' : Server) : Prop where
  honest : s'.Honest
  calm : s.Calm → s'.Calm
  issued : s.gauge.Before s'.gauge

theorem Server.Ended.onward {s s' : Server} {E : Halt ε → Prop}
    {Q : α → Gauge → Option Tables → Prop} (ended : s.Ended E Q r s') : s.Onward s' :=
  ⟨ended.honest, ended.calm, ended.issued⟩

theorem Server.Onward.trans {s s' s'' : Server} (first : s.Onward s') (second : s'.Onward s'') :
    s.Onward s'' :=
  ⟨second.honest, fun calm => second.calm (first.calm calm), first.issued.trans second.issued⟩

theorem Server.Onward.report {s : Server} (honest : s.Honest) (event : Log.Event) :
    s.Onward (s.report event).2 := ⟨honest, fun calm => ⟨calm.1, calm.2, calm.3⟩, .refl _⟩

namespace Task.Ensures

variable {others own : Server → Server → Prop} {task : Task ε α} {s : Server}
  {E : Halt ε → Server → List Exchange → Prop}
  {Q Q' : α → Server → List Exchange → Prop}

theorem pure (post : Q a s []) : Task.Ensures others own (Pure.pure a : Task ε α) s E Q := post

theorem refuse (allowed : E (.refused e) s []) :
    Task.Ensures others own (Task.refuse e : Task ε α) s E Q := allowed

theorem mono {E' : Halt ε → Server → List Exchange → Prop}
    (ensures : task.Ensures others own s E Q)
    (ok : ∀ a s' heard, Q a s' heard → Q' a s' heard)
    (error : ∀ h s' heard, E h s' heard → E' h s' heard) : task.Ensures others own s E' Q' := by
  refine Flow.Ensures.mono ensures ?_
  rintro (h | a) s' heard post
  · exact error h s' heard post
  · exact ok a s' heard post

theorem bind {task : Task ε β} {f : β → Task ε α}
    (first : task.Ensures others own s E fun b s' heard =>
      (f b).Ensures others own s' (fun h s'' more => E h s'' (heard ++ more)) fun a s'' more =>
        Q a s'' (heard ++ more)) :
    (task >>= f).Ensures others own s E Q := by
  refine Flow.Ensures.bind (Flow.Ensures.mono first ?_)
  rintro (h | b) s' heard post
  · change E h s' (heard ++ [])
    rwa [List.append_nil]
  · refine Flow.Ensures.mono post ?_
    rintro (h | a) s'' more rest <;> exact rest

theorem checked {r : Except ε α} (ok : ∀ a, r = .ok a → Q a s [])
    (error : ∀ e, r = .error e → E (.refused e) s []) :
    (Task.checked r).Ensures others own s E Q := by
  cases r with
  | ok a => exact ok a rfl
  | error e => exact error e rfl

theorem exactly {r : Except Decimal.Overflow α} (ok : ∀ a, r = .ok a → Q a s [])
    (error : ∀ operation, r = .error operation → E (.broken (.overflow operation)) s []) :
    (Task.exactly r : Task ε α).Ensures others own s E Q := by
  cases r with
  | ok a => exact ok a rfl
  | error operation => exact error operation rfl

theorem found {o : Option α} (there : ∀ a, o = some a → Q a s [])
    (missing : o = none → E (.refused e) s []) : (Task.found e o).Ensures others own s E Q := by
  cases o with
  | some a => exact there a rfl
  | none => exact missing rfl

theorem told {task : Task δ α} {f : δ → ε} (inner : task.Ensures others own s (fun h => E (h.map f)) Q) :
    (task.told f).Ensures others own s E Q := by
  refine Flow.Ensures.bind (Flow.Ensures.mono inner ?_)
  rintro (h | a) s' heard post
  · change E (h.map f) s' (heard ++ [])
    rwa [List.append_nil]
  · change Q a s' (heard ++ [])
    rwa [List.append_nil]

theorem attempt {E : Halt δ → Server → List Exchange → Prop}
    {Q : Except ε α → Server → List Exchange → Prop}
    (inner : task.Ensures others own s
      (fun h s' heard => match h with
        | .refused e => Q (.error e) s' heard
        | .broken reason => E (.broken reason) s' heard)
      fun a => Q (.ok a)) : (task.attempt : Task δ _).Ensures others own s E Q := by
  refine Flow.Ensures.bind (Flow.Ensures.mono inner ?_)
  rintro ((e | reason) | a) s' heard post
  · change Q (.error e) s' (heard ++ [])
    rwa [List.append_nil]
  · change E (.broken reason) s' (heard ++ [])
    rwa [List.append_nil]
  · change Q (.ok a) s' (heard ++ [])
    rwa [List.append_nil]

theorem now {Q : Instant → Server → List Exchange → Prop}
    (post : ∀ s₁, others s s₁ → own s₁ s₁.now.2 → Q s₁.clock s₁.now.2 []) :
    (Task.now : Task ε Instant).Ensures others own s E Q := post

theorem report {event : Log.Event} {Q : Unit → Server → List Exchange → Prop}
    (post : ∀ s₁, others s s₁ → own s₁ (s₁.report event).2 → Q () (s₁.report event).2 []) :
    (Task.report event : Task ε Unit).Ensures others own s E Q := post

theorem ask {call : Call} {Q : Reply → Server → List Exchange → Prop}
    (post : ∀ s₁ reply, others s s₁ → Q reply s₁ [⟨call, s₁.tables, reply⟩]) :
    (Task.ask (.call call) : Task ε Reply).Ensures others own s E Q := post

-- What comes of a call is its reply, if that came in time; it is noted afterwards.
theorem asked {timeout : Nat} {call : Call} {Q : Outcome → Server → List Exchange → Prop}
    (post : ∀ s₁ s₂ reply event, others s s₁ → others s₁ s₂ → own s₂ (s₂.report event).2 →
      Q (reply.within timeout) (s₂.report event).2 [⟨call, s₁.tables, reply⟩]) :
    (External.attempt timeout call : Task ε Outcome).Ensures others own s E Q := by
  refine bind (.ask fun s₁ reply first => ?_)
  have noted event s₂ := post s₁ s₂ reply event first
  unfold Reply.within at noted
  split <;> rename_i late
  · rw [if_pos late] at noted
    exact bind (.report fun s₂ second did => .pure (noted _ s₂ second did))
  · rw [if_neg late] at noted
    exact bind (.report fun s₂ second did => .pure (noted _ s₂ second did))

theorem acts {E' : Gauge → Tables → Halt ε → Prop}
    {Q' : Gauge → Tables → α → Gauge → Option Tables → Prop} (acts : task.Acts E' Q')
    (honest : ∀ s₁, others s s₁ → s₁.Honest)
    (ok : ∀ s₁ s₂ a p, others s s₁ → own s₁ s₂ → s₁.Onward s₂ →
      Q' s₁.gauge s₁.tables a s₂.gauge p → s₂.tables = p.getD s₁.tables → Q a s₂ [])
    (error : ∀ s₁ s₂ h, others s s₁ → own s₁ s₂ → s₁.Onward s₂ → s₂.tables = s₁.tables →
      (s₁.Calm → E' s₁.gauge s₁.tables h) → E h s₂ []) : task.Ensures others own s E Q := by
  obtain ⟨act, same, ends⟩ := acts
  unfold Task.Ensures
  rw [same]
  intro s₁ came did
  have ended := ends s₁ (honest s₁ came)
  rcases result : (act s₁).1 with h | a
  · obtain ⟨tables, allowed⟩ := ended.refusal h result
    exact error s₁ _ h came did ended.onward tables allowed
  · obtain ⟨p, post, tables⟩ := ended.answer a result
    exact ok s₁ _ a p came did ended.onward post tables

-- A settlement answers the record as it stands in the end, and never loses it to somebody else.
theorem settle (c : SettleCall)
    {E : Halt TransactionError → Server → List Exchange → Prop}
    {Q : Transaction → Server → List Exchange → Prop}
    (honest : ∀ s₁, others s s₁ → s₁.Honest)
    (ok : ∀ s₁ s₂ r p, others s s₁ → own s₁ s₂ → s₁.Onward s₂ →
      Settles c s₁.tables (.settled r) p → s₂.tables = p.getD s₁.tables → Q r s₂ [])
    (error : ∀ s₁ s₂ h, others s s₁ → own s₁ s₂ → s₁.Onward s₂ → s₂.tables = s₁.tables → E h s₂ []) :
    (External.settle c.id c.expected c.provider c.outcome).Ensures others own s E Q := by
  change Flow.Ensures others own c.flow s _
  rw [c.flow_eq]
  intro s₁ came did
  have ended := c.act_ended (honest s₁ came)
  rcases result : (c.act s₁).1 with h | answer
  · exact error s₁ _ h came did ended.onward (ended.refusal h result).1
  · obtain ⟨p, settles, tables⟩ := ended.answer answer result
    cases answer with
    | outrun => cases settles
    | settled r => exact ok s₁ _ r p came did ended.onward settles tables

end Task.Ensures

-- What a task ensures that has the server for itself.
def Task.Alone (task : Task ε α) (s : Server) (E : Halt ε → Server → List Exchange → Prop)
    (Q : α → Server → List Exchange → Prop) : Prop :=
  task.Ensures Eq (fun _ _ => True) s E Q

structure Server.Still (s s' : Server) : Prop extends s.Onward s' where
  tables : s'.tables = s.tables

namespace Server.Still

variable {s s' s'' : Server}

theorem refl (honest : s.Honest) : s.Still s := ⟨⟨honest, id, .refl _⟩, rfl⟩

theorem trans (first : s.Still s') (second : s'.Still s'') : s.Still s'' :=
  ⟨first.toOnward.trans second.toOnward, second.tables.trans first.tables⟩

theorem report (still : s.Still s') (event : Log.Event) : s.Still (s'.report event).2 :=
  still.trans ⟨.report still.honest event, rfl⟩

end Server.Still

namespace Task.Alone

variable {task : Task ε α} {s : Server} {E : Halt ε → Server → List Exchange → Prop}
  {Q : α → Server → List Exchange → Prop}

theorem answered (alone : task.Alone s E Q) (answer : {β : Type} → Question β → β)
    (ran : (task.run.runAlone answer s).1 = .ok a) :
    Q a (task.run.runAlone answer s).2 (task.run.heard answer s) := by
  have ended := Flow.Ensures.alone alone answer
  rw [ran] at ended
  exact ended

theorem succeeds (alone : task.Alone s (fun _ _ _ => False) Q)
    (answer : {β : Type} → Question β → β) : ∃ a, (task.run.runAlone answer s).1 = .ok a ∧
      Q a (task.run.runAlone answer s).2 (task.run.heard answer s) := by
  have ended := Flow.Ensures.alone alone answer
  rcases result : (task.run.runAlone answer s).1 with h | a
  · rw [result] at ended
    exact ended.elim
  · rw [result] at ended
    exact ⟨a, rfl, ended⟩

theorem acts {E' : Gauge → Tables → Halt ε → Prop}
    {Q' : Gauge → Tables → α → Gauge → Option Tables → Prop} (acts : task.Acts E' Q')
    (honest : s.Honest)
    (ok : ∀ s' a p, s.Onward s' → Q' s.gauge s.tables a s'.gauge p → s'.tables = p.getD s.tables →
      Q a s' [])
    (error : ∀ s' h, s.Still s' → (s.Calm → E' s.gauge s.tables h) → E h s' []) : task.Alone s E Q := by
  refine Task.Ensures.acts acts (by rintro _ rfl; exact honest) ?_ ?_
  · rintro _ s' a p rfl - onward post tables
    exact ok s' a p onward post tables
  · rintro _ s' h rfl - onward tables why
    exact error s' h ⟨onward, tables⟩ why

theorem report_then {event : Log.Event} {f : Unit → Task ε α}
    (rest : (f ()).Alone (s.report event).2 E Q) : (Task.report event >>= f).Alone s E Q := by
  refine Task.Ensures.bind (.report ?_)
  rintro _ rfl -
  exact rest

-- The call is made over the rows as they stand, and the wait for its answer leaves them there.
theorem attempt {timeout : Nat} {call : Call} {Q : Outcome → Server → List Exchange → Prop}
    (honest : s.Honest)
    (post : ∀ s' reply, s.Still s' → Q (reply.within timeout) s' [⟨call, s.tables, reply⟩]) :
    (External.attempt timeout call).Alone s E Q := by
  refine Task.Ensures.asked ?_
  rintro _ _ reply event rfl rfl -
  exact post _ reply ((Server.Still.refl honest).report event)

theorem settle {c : SettleCall} {E : Halt TransactionError → Server → List Exchange → Prop}
    {Q : Transaction → Server → List Exchange → Prop} (honest : s.Honest)
    (ok : ∀ s' r p, Settles c s.tables (.settled r) p → s'.tables = p.getD s.tables → Q r s' [])
    (error : ∀ s' h, s.Still s' → E h s' []) :
    (External.settle c.id c.expected c.provider c.outcome).Alone s E Q := by
  refine Task.Ensures.settle c (by rintro _ rfl; exact honest) ?_ ?_
  · rintro _ s' r p rfl - - settles tables
    exact ok s' r p settles tables
  · rintro _ s' h rfl - onward tables
    exact error s' h ⟨onward, tables⟩

end Task.Alone

theorem Flow.runAlone_bind (flow : Flow α) (f : α → Flow β) (answer : {γ : Type} → Question γ → γ)
    (s : Server) :
    (flow.bind f).runAlone answer s =
      (f (flow.runAlone answer s).1).runAlone answer (flow.runAlone answer s).2 := by
  induction flow generalizing s with
  | done a => rfl
  | step act next ih => exact ih _ _
  | ask question next ih => exact ih _ s

theorem SettleCall.ends (c : SettleCall) {s : Server} (honest : s.Honest)
    (answer : {β : Type} → Question β → β) :
    let ended := c.flow.runAlone answer s
    s.Onward ended.2 ∧
      ((∃ h, (c.act s).1 = .error h ∧ ended.1 = .error h ∧ ended.2.tables = s.tables) ∨
        ∃ r p, ended.1 = .ok r ∧ Settles c s.tables (.settled r) p ∧
          ended.2.tables = p.getD s.tables) := by
  have ended := c.act_ended honest
  rw [c.flow_eq, Flow.runAlone]
  rcases result : (c.act s).1 with h | settled
  · exact ⟨ended.onward, .inl ⟨h, rfl, rfl, (ended.refusal h result).1⟩⟩
  · obtain ⟨p, settles, tables⟩ := ended.answer settled result
    cases settled with
    | outrun => cases settles
    | settled r => exact ⟨ended.onward, .inr ⟨r, p, rfl, settles, tables⟩⟩

theorem Flow.Lawful.onward {flow : Flow α} {P : α → Prop} {s : Server} (lawful : flow.Lawful P)
    (honest : s.Honest) (answer : {β : Type} → Question β → β) :
    s.Onward (flow.runAlone answer s).2 := by
  induction lawful generalizing s with
  | done => exact ⟨honest, id, .refl _⟩
  | step advances _ ih =>
    have first := advances s honest
    exact .trans ⟨first.honest, first.calm, first.issued⟩ (ih s honest first.honest)
  | settle c call _ ih =>
    have first := (c.ends honest answer).1
    rw [call, runAlone_bind]
    exact first.trans (ih _ first.honest)
  | ask _ ih => exact ih _ honest

end Treasury
