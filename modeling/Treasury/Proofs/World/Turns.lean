import Treasury.Proofs.World.Basic
import Treasury.Proofs.Service.Quiet

namespace Treasury

def Event.activity? : Event → Option Nat
  | .advance i => some i
  | .reply i _ => some i
  | .page i _ => some i
  | _ => none

namespace World

def goes? (w : World) : Event → Option Nat
  | .begin _ => some w.activities.length
  | .advance i =>
    match w.activities[i]? with
    | some ⟨.step _ _⟩ => some i
    | _ => none
  | .reply i _ =>
    match w.activities[i]? with
    | some ⟨.ask (.call _) _⟩ => some i
    | _ => none
  | .page i _ =>
    match w.activities[i]? with
    | some ⟨.ask (.page _ _) _⟩ => some i
    | _ => none
  | _ => none

-- The order to which an activity comes with an event. Whether it is ever answered does not matter.
def order? (w : World) (e : Event) : Option (Nat × Call) :=
  (w.goes? e).bind fun i =>
    ((w.take e).activities[i]?.bind fun a => a.flow.order?).map fun order => (i, order)

variable {w : World} {e : Event} {i : Nat}

theorem take_elsewhere (there : w.activities[i]? = some a) (elsewhere : e.activity? ≠ some i) :
    (w.take e).activities[i]? = some a := by
  have set (j : Nat) (b : Activity) (other : some j ≠ some i) :
      (w.activities.set j b)[i]? = some a :=
    (List.getElem?_set_ne fun same => other (congrArg some same)).trans there
  cases e with
  | begin => exact (List.getElem?_append_left (List.getElem?_eq_some_iff.mp there).1).trans there
  | advance j =>
    dsimp only [take]
    split
    · exact set j _ elsewhere
    · exact there
  | reply j reply =>
    dsimp only [take]
    split
    · exact set j _ elsewhere
    · exact there
  | page j page =>
    dsimp only [take]
    split
    · exact set j _ elsewhere
    · exact there
  | availability => exact there
  | failNextCommit => exact there
  | failCall => exact there
  | clock => exact there

-- What one event does to one activity: it goes on with one act or one answer, or nothing is done
-- in its name.
inductive Turns (w : World) (i : Nat) (e : Event) : Activity → Activity → Prop where
  | waits (elsewhere : w.goes? e ≠ some i)
      (still : e.activity? = some i → (w.take e).server = w.server) : Turns w i e a a
  | acts {act : Server → β × Server} {next : β → Flow α} (mine : e.activity? = some i)
      (taken : w.take e =
        ⟨(act w.server).2, w.activities.set i ⟨next (act w.server).1⟩⟩)
      (given : w.order? e = (next (act w.server).1).order?.map fun order => (i, order)) :
      Turns w i e ⟨.step act next⟩ ⟨next (act w.server).1⟩
  | hears {question : Question β} {next : β → Flow α} (answer : β)
      (taken : w.take e = { w with activities := w.activities.set i ⟨next answer⟩ })
      (given : w.order? e = (next answer).order?.map fun order => (i, order)) :
      Turns w i e ⟨.ask question next⟩ ⟨next answer⟩

theorem getElem?_turned (there : w.activities[i]? = some a) (b : Activity) :
    (w.activities.set i b)[i]? = some b := by
  rw [List.getElem?_set_self', there]
  rfl

theorem order?_set {s : Server} {a b : Activity} (there : w.activities[i]? = some a)
    (goes : w.goes? e = some i) (taken : w.take e = ⟨s, w.activities.set i b⟩) :
    w.order? e = b.flow.order?.map fun order => (i, order) := by
  have there' := getElem?_turned there b
  rw [order?, goes, Option.bind_some, taken]
  dsimp only
  rw [there', Option.bind_some]

theorem goes?_activity (there : w.activities[i]? = some a) (goes : w.goes? e = some i) :
    e.activity? = some i := by
  have within := (List.getElem?_eq_some_iff.mp there).1
  cases e with
  | begin =>
    simp only [goes?, Option.some.injEq] at goes
    omega
  | advance j =>
    dsimp only [goes?] at goes
    split at goes
    · exact goes
    · cases goes
  | reply j =>
    dsimp only [goes?] at goes
    split at goes
    · exact goes
    · cases goes
  | page j =>
    dsimp only [goes?] at goes
    split at goes
    · exact goes
    · cases goes
  | _ => cases goes

theorem turns_hears {question : Question β} {next : β → Flow α}
    (there : w.activities[i]? = some ⟨.ask question next⟩) (answer : β) (goes : w.goes? e = some i)
    (taken : w.take e = { w with activities := w.activities.set i ⟨next answer⟩ }) :
    ∃ a', (w.take e).activities[i]? = some a' ∧ w.Turns i e ⟨.ask question next⟩ a' := by
  refine ⟨⟨next answer⟩, ?_, .hears answer taken (order?_set there goes taken)⟩
  rw [taken]
  exact getElem?_turned there _

theorem turns (there : w.activities[i]? = some a) (e : Event) :
    ∃ a', (w.take e).activities[i]? = some a' ∧ w.Turns i e a a' := by
  have keeps (elsewhere : w.goes? e ≠ some i) (still : w.take e = w) :
      ∃ a', (w.take e).activities[i]? = some a' ∧ w.Turns i e a a' :=
    ⟨a, by rw [still]; exact there, .waits elsewhere fun _ => by rw [still]⟩
  by_cases mine : e.activity? = some i
  · obtain ⟨flow⟩ := a
    cases e with
    | advance j =>
      cases mine
      cases flow with
      | step act next =>
        have goes : w.goes? (.advance i) = some i := by simp only [goes?, there]
        have taken : w.take (.advance i) =
            ⟨(act w.server).2, w.activities.set i ⟨next (act w.server).1⟩⟩ := by
          simp only [take, there]
        refine ⟨⟨next (act w.server).1⟩, ?_, .acts rfl taken (order?_set there goes taken)⟩
        rw [taken]
        exact getElem?_turned there _
      | _ => exact keeps (by simp [goes?, there]) (by simp only [take, there])
    | reply j reply =>
      cases mine
      cases flow with
      | ask question next =>
        cases question with
        | call => exact turns_hears there reply (by simp only [goes?, there]) (by simp only [take, there])
        | page => exact keeps (by simp [goes?, there]) (by simp only [take, there])
      | _ => exact keeps (by simp [goes?, there]) (by simp only [take, there])
    | page j page =>
      cases mine
      cases flow with
      | ask question next =>
        cases question with
        | page => exact turns_hears there page (by simp only [goes?, there]) (by simp only [take, there])
        | call => exact keeps (by simp [goes?, there]) (by simp only [take, there])
      | _ => exact keeps (by simp [goes?, there]) (by simp only [take, there])
    | _ => cases mine
  · refine ⟨a, take_elsewhere there mine, .waits (fun goes => ?_) fun same => absurd same mine⟩
    exact mine (goes?_activity there goes)

end World
end Treasury
