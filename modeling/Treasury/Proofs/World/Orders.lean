import Mathlib.Data.List.Induction
import Treasury.Proofs.World.Turns

namespace Treasury

def Event.operation? : Event → Option Operation
  | .begin operation => some operation
  | _ => none

namespace World

def begun (events : List Event) : List Operation := events.filterMap Event.operation?

def orders : World → List Event → List (Nat × Call)
  | _, [] => []
  | w, e :: rest => (w.order? e).toList ++ (w.take e).orders rest

theorem orders_append (w : World) (early late : List Event) :
    w.orders (early ++ late) = w.orders early ++ (w.after early).orders late := by
  induction early generalizing w with
  | nil => rfl
  | cons e rest ih =>
    rw [List.cons_append, orders, orders, ih, List.append_assoc]
    rfl

def ordersOf (events : List Event) (i : Nat) : List Call :=
  ((start.orders events).filter fun order => order.1 = i).map Prod.snd

variable {w : World} {e : Event} {i : Nat} {events : List Event} {operation : Operation}

theorem order?_goes {c : Call} (goes : w.order? e = some (i, c)) : w.goes? e = some i := by
  unfold order? at goes
  cases moved : w.goes? e with
  | none => simp [moved] at goes
  | some j =>
    simp only [moved, Option.bind_some, Option.map_eq_some_iff, Prod.mk.injEq] at goes
    obtain ⟨_, _, rfl, _⟩ := goes
    rfl

theorem ordersOf_snoc : ordersOf (events ++ [e]) i =
    ordersOf events i ++ (((run events).order? e).toList.filter fun order => order.1 = i).map Prod.snd := by
  unfold ordersOf
  rw [orders_append, List.filter_append, List.map_append]
  simp [orders, run]

theorem ordersOf_silent (silent : (run events).goes? e ≠ some i) :
    ordersOf (events ++ [e]) i = ordersOf events i := by
  rw [ordersOf_snoc]
  cases given : (run events).order? e with
  | none => simp
  | some order =>
    have other : order.1 ≠ i := by
      intro same
      subst same
      exact silent (order?_goes given)
    simp [other]

theorem ordersOf_given {order? : Option Call}
    (given : (run events).order? e = order?.map fun order => (i, order)) :
    ordersOf (events ++ [e]) i = ordersOf events i ++ order?.toList := by
  rw [ordersOf_snoc, given]
  cases order? <;> simp

theorem take_length (w : World) (e : Event) :
    (w.take e).activities.length = w.activities.length + e.operation?.toList.length := by
  cases e with
  | begin => simp [take, Event.operation?]
  | advance =>
    dsimp only [take]
    split <;> simp [Event.operation?]
  | reply =>
    dsimp only [take]
    split <;> simp [Event.operation?]
  | page =>
    dsimp only [take]
    split <;> simp [Event.operation?]
  | _ => rfl

theorem begun_snoc (events : List Event) (e : Event) :
    begun (events ++ [e]) = begun events ++ e.operation?.toList := by
  rw [begun, List.filterMap_append]
  cases same : e.operation? <;> simp [begun, same]

theorem begun_length (events : List Event) :
    (begun events).length = (run events).activities.length := by
  induction events using List.reverseRecOn with
  | nil => rfl
  | append_singleton events e ih =>
    rw [begun_snoc, run_snoc, take_length, List.length_append, ih]

-- What holds of an activity as it begins, and stays with every turn it takes, holds of it at every
-- time.
theorem follow {I : List Event → Activity → Prop} (i : Nat) (operation : Operation)
    (begins : ∀ events, (begun events).length = i → I (events ++ [.begin operation]) operation.activity)
    (goes : ∀ events e a a', (run events).activities[i]? = some a → (run events).Turns i e a a' →
      I events a → I (events ++ [e]) a')
    (events : List Event) (there : (begun events)[i]? = some operation) :
    ∃ a, (run events).activities[i]? = some a ∧ I events a := by
  induction events using List.reverseRecOn with
  | nil => cases there
  | append_singleton events e ih =>
    rw [run_snoc]
    by_cases known : i < (begun events).length
    · rw [begun_snoc, List.getElem?_append_left known] at there
      obtain ⟨a, running, holds⟩ := ih there
      obtain ⟨a', goneOn, turned⟩ := turns running e
      exact ⟨a', goneOn, goes events e a a' running turned holds⟩
    · rw [begun_snoc, List.getElem?_append_right (Nat.le_of_not_lt known)] at there
      cases e with
      | begin new =>
        have first : (begun events).length = i := by
          have inside := (List.getElem?_eq_some_iff.mp there).1
          simp only [Event.operation?, Option.toList_some, List.length_singleton] at inside
          omega
        rw [← first, Nat.sub_self] at there
        cases there
        refine ⟨_, ?_, begins events first⟩
        rw [take, ← first, begun_length]
        exact List.getElem?_concat_length
      | _ => cases there

theorem orders_begun {order : Nat × Call} (given : order ∈ start.orders events) :
    order.1 < (begun events).length := by
  induction events using List.reverseRecOn with
  | nil => cases given
  | append_singleton events e ih =>
    rw [orders_append, List.mem_append] at given
    rw [begun_length, run_snoc]
    rcases given with early | late
    · have known := ih early
      rw [begun_length] at known
      rw [take_length]
      omega
    · simp only [orders, List.append_nil, Option.mem_toList] at late
      change (run events).order? e = some order at late
      unfold order? at late
      cases moved : (run events).goes? e with
      | none => simp [moved] at late
      | some j =>
        rw [moved, Option.bind_some, Option.map_eq_some_iff] at late
        obtain ⟨_, there, rfl⟩ := late
        obtain ⟨a, there, _⟩ := Option.bind_eq_some_iff.mp there
        exact (List.getElem?_eq_some_iff.mp there).1

theorem ordersOf_unbegun (unbegun : (begun events).length ≤ i) : ordersOf events i = [] := by
  have none : (start.orders events).filter (fun order => order.1 = i) = [] := by
    refine List.filter_eq_nil_iff.mpr fun order given => ?_
    have known := orders_begun given
    simp only [decide_eq_true_eq]
    omega
  rw [ordersOf, none]
  rfl

theorem take_unbegun (unbegun : w.activities.length ≤ i) (mine : e.activity? = some i) :
    w.take e = w := by
  have missing : w.activities[i]? = none := List.getElem?_eq_none unbegun
  cases e with
  | advance => cases mine; simp only [take, missing]
  | reply => cases mine; simp only [take, missing]
  | page => cases mine; simp only [take, missing]
  | _ => cases mine

theorem order?_begin (events : List Event) (operation : Operation) :
    (run events).order? (.begin operation) =
      operation.activity.flow.order?.map fun order => ((begun events).length, order) := by
  rw [order?, goes?, Option.bind_some, take, begun_length]
  dsimp only
  rw [List.getElem?_concat_length, Option.bind_some]

theorem ordersOf_quiet (i : Nat) (quiet : operation.activity.flow.Quiet)
    (there : (begun events)[i]? = some operation) : ordersOf events i = [] := by
  have stays := follow (I := fun events a => a.flow.Quiet ∧ ordersOf events i = []) i operation
    ?_ ?_ events there
  · obtain ⟨_, _, _, silent⟩ := stays
    exact silent
  · intro events first
    refine ⟨quiet, ?_⟩
    have given := order?_begin events operation
    rw [first] at given
    rw [ordersOf_given given, ordersOf_unbegun (Nat.le_of_eq first), quiet.order?]
    rfl
  · intro events e a a' _ turned kept
    obtain ⟨quiet, silent⟩ := kept
    cases turned with
    | waits elsewhere => exact ⟨quiet, (ordersOf_silent elsewhere).trans silent⟩
    | acts _ _ given =>
      cases quiet with
      | step rest => exact ⟨rest _, by rw [ordersOf_given given, silent, (rest _).order?]; rfl⟩
    | hears answer _ given =>
      cases quiet with
      | ask _ rest => exact ⟨rest _, by rw [ordersOf_given given, silent, (rest _).order?]; rfl⟩

end World
end Treasury
