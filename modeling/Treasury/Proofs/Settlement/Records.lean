import Treasury.Proofs.Settlement.Standing

namespace Treasury

structure Transaction.Lasting (P : Transaction → Prop) : Prop where
  opened : ∀ t r legs, Opening t r legs → P r
  touched : ∀ r moment, P r → P { r with updatedAt := moment }
  decided : ∀ t r c legs noted moment, P r → r.status = c.expected →
    c.expected.canBecome c.outcome.status = true → Resolves t r c.provider c.outcome legs noted →
    P (r.Decided c noted moment)

namespace Tables

def Records (P : Transaction → Prop) (t : Tables) : Prop := ∀ id r, t.transaction? id = some r → P r

namespace Records

variable {P : Transaction → Prop} {g g' : Gauge} {t t' : Tables}

theorem empty : Tables.empty.Records P := by
  intro _ _ stored
  cases stored

theorem of_same (records : t.Records P) (same : t'.transactions = t.transactions) : t'.Records P := by
  intro id r stored
  rw [transaction?, same] at stored
  exact records id r stored

theorem noted (records : t.Records P) (new : P r) : (t.withTransaction r).Records P := by
  intro id x stored
  rw [transaction?, withTransaction, Rows.find?_put] at stored
  split at stored
  · cases stored
    exact new
  · exact records id x stored

theorem changed (records : t.Records P) {change : Transaction → Transaction}
    (keeps : ∀ r, (change r).id = r.id)
    (new : ∀ r, t.transaction? number = some r → P { change r with updatedAt := moment }) :
    (t.withChanged number change moment).Records P := by
  intro id x stored
  rcases transaction?_changed keeps stored with ⟨_, r, found, rfl⟩ | ⟨_, kept⟩
  · exact new r found
  · exact records id x kept

theorem settles (records : t.Records P) (lasting : Transaction.Lasting P)
    (settles : Settles c t answer (some t')) : t'.Records P := by
  cases settles with
  | touched stored =>
    refine records.changed ?_ fun r found => lasting.touched r _ (records _ r found)
    exact fun _ => rfl
  | @decided r _ _ _ _ stored current moves resolves books =>
    refine (records.of_same books.transactions).changed ?_ fun x found => ?_
    · exact fun _ => rfl
    · rw [transaction?, books.transactions] at found
      cases stored.symm.trans found
      exact lasting.decided _ r c _ _ _ (records _ r stored) current moves resolves

theorem step (records : t.Records P) (lasting : Transaction.Lasting P) (step : Step g t g' t') :
    t'.Records P := by
  cases step with
  | settle c settles => exact records.settles lasting settles
  | change change =>
    cases change.books with
    | same books => exact records.of_same books.transactions
    | opened => exact records.of_same rfl
    | restated => exact records.of_same rfl
    | created before created after =>
      have noted := (records.of_same before.transactions).noted (lasting.opened _ _ _ created.opening)
      exact (noted.of_same created.books.transactions).of_same after.transactions
    | touched stored =>
      refine records.changed ?_ fun r found => lasting.touched r _ (records _ r found)
      exact fun _ => rfl

end Records
end Tables

theorem World.run_records {P : Transaction → Prop} (lasting : Transaction.Lasting P)
    (events : List Event) : (World.run events).server.tables.Records P :=
  Sound.start.induct (I := fun _ t => t.Records P)
    (fun _ _ _ _ _ step records => records.step lasting step) .empty events

end Treasury
