import Treasury.Proofs.Settlement.Once
import Mathlib.Data.List.Induction

namespace Treasury

structure Transaction.Enduring (P : Transaction → List Line → Prop) : Prop where
  opened : ∀ t r legs, Opening t r legs → P r (legs.map Leg.line)
  touched : ∀ r lines moment, P r lines → P { r with updatedAt := moment } lines
  decided : ∀ t r c legs noted moment lines, P r lines → Standing r lines →
    (t.wallet? r.walletId).map (·.currency) = some r.currency → r.status = c.expected →
    c.expected.canBecome c.outcome.status = true → Resolves t r c.provider c.outcome legs noted →
    P (r.Decided c noted moment) (lines ++ legs.map Leg.line)

namespace Tables

def Endures (P : Transaction → List Line → Prop) (t : Tables) : Prop :=
  ∀ id r, t.transaction? id = some r → P r ((t.entriesOf id).map Entry.line)

namespace Endures

variable {P : Transaction → List Line → Prop} {g g' : Gauge} {t t' : Tables} {c : SettleCall}

theorem empty : Tables.empty.Endures P := by
  intro _ _ stored
  cases stored

theorem of_same (endures : t.Endures P) (transactions : t'.transactions = t.transactions)
    (entries : t'.entries = t.entries) : t'.Endures P := by
  intro id r stored
  rw [transaction?, transactions] at stored
  rw [entriesOf, entries]
  exact endures id r stored

theorem touched (endures : t.Endures P)
    (still : ∀ r lines moment, P r lines → P { r with updatedAt := moment } lines)
    (number : TransactionId) (moment : Instant) : (t.withTouched number moment).Endures P := by
  intro id r stored
  rcases transaction?_changed (fun _ => rfl) stored with ⟨rfl, old, found, rfl⟩ | ⟨_, kept⟩
  · exact still old _ moment (endures id old found)
  · exact endures id r kept

theorem created (endures : t.Endures P) (orderly : t.Orderly g) (distinct : g'.Distinct)
    (later : g.Before g') (created : Created g t g' new legs t') (opened : P new (legs.map Leg.line)) :
    t'.Endures P := by
  obtain ⟨_, silent⟩ := orderly.fresh distinct later created.issued
  intro id r stored
  rw [created.frame, transaction?] at stored
  rw [Rows.find?_put] at stored
  split at stored
  · rename_i same
    subst same
    cases stored
    have nothing : (t.withTransaction new).entriesOf new.id = [] := silent
    rw [created.books.entriesOf_same, nothing]
    exact opened
  · rename_i other
    rw [created.books.entriesOf_other (Ne.symm other)]
    exact endures id r stored

theorem settles (endures : t.Endures P)
    (still : ∀ r lines moment, P r lines → P { r with updatedAt := moment } lines)
    (decided : ∀ r legs noted moment, t.transaction? c.id = some r → r.status = c.expected →
      c.expected.canBecome c.outcome.status = true → Resolves t r c.provider c.outcome legs noted →
      P (r.Decided c noted moment) ((t.entriesOf c.id).map Entry.line ++ legs.map Leg.line))
    (settles : Settles c t answer (some t')) : t'.Endures P := by
  cases settles with
  | touched => exact endures.touched still _ _
  | @decided r _ noted t₁ moment stored current moves resolves books =>
    intro id x found
    change P x ((t₁.entriesOf id).map Entry.line)
    by_cases mine : id = c.id
    · subst mine
      rw [decided_record stored books] at found
      cases found
      rw [books.entriesOf_same]
      exact decided r _ noted moment stored current moves resolves
    · have keeps : ∀ x, ((c.update r noted).apply x).id = x.id := fun _ => rfl
      rcases transaction?_changed keeps found with ⟨same, _⟩ | ⟨_, kept⟩
      · exact absurd same mine
      · rw [transaction?, books.transactions] at kept
        rw [books.entriesOf_other mine]
        exact endures id x kept

theorem step (endures : t.Endures P) (enduring : Transaction.Enduring P) (orderly : t.Orderly g)
    (distinct : g'.Distinct) (later : g.Before g') (step : Step g t g' t') : t'.Endures P := by
  cases step with
  | settle c settles =>
    refine endures.settles enduring.touched ?_ settles
    intro r legs noted moment stored current moves resolves
    have there := Rows.mem_of_find? stored
    have number : r.id = c.id := Rows.key_of_find? stored
    have standing := orderly.standing r there
    rw [number] at standing
    exact enduring.decided t r c _ _ moment _ (endures c.id r stored) standing
      (orderly.held r there) current moves resolves
  | change change =>
    cases change.books with
    | same books => exact endures.of_same books.transactions books.entries
    | opened => exact endures.of_same rfl rfl
    | restated => exact endures.of_same rfl rfl
    | created before created after =>
      have noted := (endures.of_same before.transactions before.entries).created
        (orderly.same_books before) distinct later created (enduring.opened _ _ _ created.opening)
      exact noted.of_same after.transactions after.entries
    | touched => exact endures.touched enduring.touched _ _

end Endures
end Tables

namespace World

theorem distinct_early {early late : List Event}
    (distinct : (run (early ++ late)).server.gauge.Distinct) : (run early).server.gauge.Distinct := by
  rw [run_append] at distinct
  exact distinct.before ((run_sound early).issued late)

-- What every step keeps that begins with ordered rows holds in every state.
theorem run_induct {I : Tables → Prop} (events : List Event)
    (distinct : (run events).server.gauge.Distinct) (start : I .empty)
    (kept : ∀ g t g' t', t.Orderly g → g'.Distinct → g.Before g' → Step g t g' t' → I t → I t') :
    I (run events).server.tables := by
  induction events using List.reverseRecOn with
  | nil => exact start
  | append_singleton events e ih =>
    have before := distinct_early distinct
    have ordered := run_ordered events before
    obtain ⟨later, step⟩ := ordered.sound.step e
    rw [run_snoc] at distinct ⊢
    exact kept _ _ _ _ ordered.orderly distinct later step (ih before)

theorem run_endures {P : Transaction → List Line → Prop} (enduring : Transaction.Enduring P)
    (events : List Event) (distinct : (run events).server.gauge.Distinct) :
    (run events).server.tables.Endures P := by
  apply run_induct events distinct .empty
  intro g t g' t' orderly next later step endures
  exact endures.step enduring orderly next later step

end World
end Treasury
