import Mathlib.Data.List.Induction
import Treasury.Store.Tables

namespace Treasury

namespace Rows

variable {α κ : Type} [DecidableEq κ] {key : α → κ} {k : κ} {rows : List α} {r row : α}
  {change : α → α}

theorem mem_of_find? (found : find? key k rows = some r) : r ∈ rows := List.mem_of_find?_eq_some found

theorem key_of_find? (found : find? key k rows = some r) : key r = k := by
  simpa using List.find?_some found

theorem find?_none : find? key k rows = none ↔ k ∉ rows.map key := by
  simp [find?, List.find?_eq_none]

theorem find?_of_mem (unique : (rows.map key).Nodup) (mem : r ∈ rows) :
    find? key (key r) rows = some r := by
  induction rows with
  | nil => cases mem
  | cons head rest ih =>
    simp only [List.map_cons, List.nodup_cons] at unique
    rcases List.mem_cons.mp mem with rfl | deeper
    · simp [find?]
    · have other : key head ≠ key r := fun same =>
        unique.1 (same ▸ List.mem_map_of_mem deeper)
      have rest := ih unique.2 deeper
      simpa [find?, other] using rest

theorem find?_eq_some_iff (unique : (rows.map key).Nodup) :
    find? key k rows = some r ↔ r ∈ rows ∧ key r = k := by
  refine ⟨fun found => ⟨mem_of_find? found, key_of_find? found⟩, ?_⟩
  rintro ⟨mem, rfl⟩
  exact find?_of_mem unique mem

theorem find?_append_new (free : find? key (key row) rows = none) (k : κ) :
    find? key k (rows ++ [row]) = if key row = k then some row else find? key k rows := by
  unfold find? at free ⊢
  rw [List.find?_append]
  by_cases same : key row = k
  · subst same
    simp [free]
  · simp [same]

theorem nodup_append_new (unique : (rows.map key).Nodup) (free : find? key (key row) rows = none) :
    ((rows ++ [row]).map key).Nodup := by
  rw [find?_none] at free
  rw [List.map_append, List.nodup_append]
  refine ⟨unique, by simp, ?_⟩
  intro a mem b last same
  simp only [List.map_cons, List.map_nil, List.mem_singleton] at last
  exact free (last ▸ same ▸ mem)

theorem map_amend {f : α → β} (keeps : ∀ r, key r = k → f (change r) = f r) :
    (amend key k change rows).map f = rows.map f := by
  rw [amend, List.map_map]
  refine List.map_congr_left fun r _ => ?_
  by_cases same : key r = k
  · simpa [same] using keeps r same
  · simp [same]

theorem find?_map {f : α → α} (keeps : ∀ r ∈ rows, key (f r) = key r) :
    find? key k (rows.map f) = (find? key k rows).map f := by
  induction rows with
  | nil => rfl
  | cons head rest ih =>
    have later := ih fun r mem => keeps r (List.mem_cons_of_mem _ mem)
    have first := keeps head List.mem_cons_self
    by_cases same : key head = k
    · simp [find?, first, same]
    · simpa [find?, first, same] using later

theorem find_amend {p : α → Bool} (keeps : ∀ r, key r = k → p (change r) = p r) :
    (amend key k change rows).find? p =
      (rows.find? p).map fun r => if key r = k then change r else r := by
  have through : (p ∘ fun r => if key r = k then change r else r) = p := by
    funext r
    by_cases same : key r = k
    · simp [same, keeps r same]
    · simp [same]
  rw [amend, List.find?_map, through]

section Amend

variable (keeps : ∀ r, key r = k → key (change r) = key r)
include keeps

theorem find?_amend (k' : κ) :
    find? key k' (amend key k change rows) =
      (find? key k' rows).map fun r => if key r = k then change r else r :=
  find_amend fun r same => by rw [keeps r same]

theorem map_find?_amend {f : α → β} (same : ∀ r, key r = k → f (change r) = f r) (k' : κ) :
    (find? key k' (amend key k change rows)).map f = (find? key k' rows).map f := by
  rw [find?_amend keeps, Option.map_map]
  refine congrArg (Option.map · _) (funext fun r => ?_)
  by_cases here : key r = k
  · simp [here, same r here]
  · simp [here]

theorem find?_amend_same (found : find? key k rows = some r) :
    find? key k (amend key k change rows) = some (change r) := by
  rw [find?_amend keeps, found, Option.map_some, if_pos (key_of_find? found)]

theorem find?_amend_other (other : k' ≠ k) :
    find? key k' (amend key k change rows) = find? key k' rows := by
  rw [find?_amend keeps]
  cases found : find? key k' rows with
  | none => rfl
  | some r => rw [Option.map_some, if_neg (key_of_find? found ▸ other)]

end Amend

theorem mem_amend : r ∈ amend key k change rows ↔
    (r ∈ rows ∧ key r ≠ k) ∨ ∃ old ∈ rows, key old = k ∧ r = change old := by
  simp only [amend, List.mem_map]
  constructor
  · rintro ⟨old, mem, rfl⟩
    by_cases same : key old = k
    · exact .inr ⟨old, mem, same, by rw [if_pos same]⟩
    · rw [if_neg same]
      exact .inl ⟨mem, same⟩
  · rintro (⟨mem, other⟩ | ⟨old, mem, same, rfl⟩)
    · exact ⟨r, mem, by rw [if_neg other]⟩
    · exact ⟨old, mem, by rw [if_pos same]⟩

theorem find?_put (k : κ) :
    find? key k (put key row rows) = if key row = k then some row else find? key k rows := by
  unfold put
  cases found : find? key (key row) rows with
  | none =>
    simp only [Option.isSome_none, Bool.false_eq_true, if_false]
    exact find?_append_new found k
  | some old =>
    simp only [Option.isSome_some, if_true]
    have keeps : ∀ r, key r = key row → key ((fun _ => row) r) = key r := fun _ there => there.symm
    by_cases same : key row = k
    · subst same
      rw [if_pos rfl, find?_amend_same keeps found]
    · rw [if_neg same, find?_amend_other keeps (Ne.symm same)]

theorem put_new (free : find? key (key row) rows = none) : put key row rows = rows ++ [row] := by
  simp [put, free]

theorem mem_put (mem : r ∈ put key row rows) : r = row ∨ r ∈ rows ∧ key r ≠ key row := by
  unfold put at mem
  split at mem
  · rcases mem_amend.mp mem with kept | ⟨_, _, _, same⟩
    · exact .inr kept
    · exact .inl same
  · rename_i free
    rcases List.mem_append.mp mem with old | new
    · refine .inr ⟨old, fun same => free ?_⟩
      rw [← same, find?, List.find?_isSome]
      exact ⟨r, old, by simp⟩
    · exact .inl (List.mem_singleton.mp new)

theorem self_mem_put : row ∈ put key row rows := by
  exact mem_of_find? ((find?_put (key row)).trans (if_pos rfl))

theorem put_there (there : (find? key (key row) rows).isSome) :
    put key row rows = rows.map fun r => if key r = key row then row else r := if_pos there

theorem isSome_put_self (key : α → κ) (row : α) :
    (find? key (key row) (put key row rows)).isSome := by
  rw [find?_put, if_pos rfl]
  rfl

theorem isSome_put (k : κ) (there : (find? key k rows).isSome) :
    (find? key k (put key row rows)).isSome := by
  rw [find?_put]
  split
  · rfl
  · exact there

theorem nodup_put (unique : (rows.map key).Nodup) : ((put key row rows).map key).Nodup := by
  unfold put
  split
  · rw [map_amend fun r same => same.symm]
    exact unique
  · rename_i free
    exact nodup_append_new unique (Option.not_isSome_iff_eq_none.mp free)

theorem map_put {f : α → α} (keeps : ∀ r, key (f r) = key r) :
    (put key row rows).map f = put key (f row) (rows.map f) := by
  have there : (find? key (key row) (rows.map f)).isSome = (find? key (key row) rows).isSome := by
    rw [find?_map fun r _ => keeps r, Option.isSome_map]
  unfold put
  rw [keeps, there]
  split
  · simp only [amend, List.map_map]
    refine List.map_congr_left fun r _ => ?_
    simp only [Function.comp_apply, keeps]
    split <;> rfl
  · rw [List.map_append]
    rfl

-- Rows written one after another. Of those with one key the last one stays.
def putAll (key : α → κ) (written rows : List α) : List α :=
  written.foldl (fun kept row => put key row kept) rows

section PutAll

variable {written : List α}

theorem putAll_snoc (key : α → κ) (written : List α) (row : α) (rows : List α) :
    putAll key (written ++ [row]) rows = put key row (putAll key written rows) := by
  rw [putAll, List.foldl_append]
  rfl

theorem find?_reverse_snoc (row : α) (k : κ) :
    find? key k (written ++ [row]).reverse =
      if key row = k then some row else find? key k written.reverse := by
  rw [List.reverse_append]
  by_cases same : key row = k <;> simp [find?, same]

theorem find?_putAll (k : κ) :
    find? key k (putAll key written rows) = (find? key k written.reverse).or (find? key k rows) := by
  induction written using List.reverseRecOn with
  | nil => rfl
  | append_singleton written row ih =>
    rw [putAll_snoc, find?_put, find?_reverse_snoc, ih]
    split <;> rfl

theorem mem_putAll (mem : r ∈ putAll key written rows) :
    find? key (key r) written.reverse = some r ∨
      find? key (key r) written.reverse = none ∧ r ∈ rows := by
  induction written using List.reverseRecOn with
  | nil => exact .inr ⟨rfl, mem⟩
  | append_singleton written row ih =>
    rw [putAll_snoc] at mem
    rw [find?_reverse_snoc]
    rcases mem_put mem with rfl | ⟨older, other⟩
    · exact .inl (if_pos rfl)
    · rw [if_neg (Ne.symm other)]
      exact ih older

theorem putAll_there (there : ∀ row ∈ written, (find? key (key row) rows).isSome) :
    putAll key written rows = rows.map fun r => (find? key (key r) written.reverse).getD r := by
  induction written using List.reverseRecOn with
  | nil => exact (List.map_id' rows).symm
  | append_singleton written row ih =>
    have earlier := ih fun row mem => there row (List.mem_append_left _ mem)
    have last := there row (List.mem_append_right _ (List.mem_singleton.mpr rfl))
    have keeps (r : α) : key ((find? key (key r) written.reverse).getD r) = key r := by
      cases found : find? key (key r) written.reverse with
      | none => rfl
      | some w => exact key_of_find? found
    have held : (find? key (key row) (putAll key written rows)).isSome := by
      rw [earlier, find?_map fun r _ => keeps r, Option.isSome_map]
      exact last
    rw [putAll_snoc, put_there held, earlier, List.map_map]
    refine List.map_congr_left fun r _ => ?_
    simp only [Function.comp_apply, keeps, find?_reverse_snoc]
    by_cases same : key r = key row
    · rw [if_pos same, if_pos same.symm]
      rfl
    · rw [if_neg same, if_neg (Ne.symm same)]

-- Writing the same rows again changes nothing.
theorem putAll_again : putAll key written (putAll key written rows) = putAll key written rows := by
  rw [putAll_there]
  · refine (List.map_congr_left fun r mem => ?_).trans (List.map_id' _)
    rcases mem_putAll mem with stands | ⟨unwritten, _⟩
    · rw [stands]
      rfl
    · rw [unwritten]
      rfl
  · intro row mem
    rw [find?_putAll]
    have written' : (find? key (key row) written.reverse).isSome := by
      rw [find?, List.find?_isSome]
      exact ⟨row, List.mem_reverse.mpr mem, by simp⟩
    rw [Option.isSome_or, written', Bool.true_or]

theorem map_putAll {f : α → α} (keeps : ∀ r, key (f r) = key r) :
    (putAll key written rows).map f = putAll key (written.map f) (rows.map f) := by
  induction written using List.reverseRecOn with
  | nil => rfl
  | append_singleton written row ih =>
    rw [putAll_snoc, map_put keeps, ih, List.map_append, List.map_singleton, putAll_snoc]

end PutAll
end Rows
end Treasury
