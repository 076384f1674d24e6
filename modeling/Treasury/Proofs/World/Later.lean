import Treasury.Proofs.Settlement.Once
import Treasury.Proofs.Request.Basic
import Treasury.Proofs.Time.Instant

namespace Treasury

namespace Tables

variable {g g' : Gauge} {t t' t'' : Tables}

theorem laterRate_some (rates : List Rate) (best : Rate) :
    ∃ r, rates.foldl laterRate (some best) = some r := by
  induction rates generalizing best with
  | nil => exact ⟨best, rfl⟩
  | cons r rest ih =>
    rw [List.foldl_cons, laterRate]
    split <;> exact ih _

theorem rate?_some {base quote : Currency} : (∃ r, t.rate? base quote now = some r) ↔
    ∃ r ∈ t.rates, r.base = base ∧ r.quote = quote ∧ r.effectiveAt ≤ now := by
  have listed (r : Rate) :
      r ∈ t.rates.filter (fun r => r.base = base ∧ r.quote = quote ∧ r.effectiveAt ≤ now) ↔
      r ∈ t.rates ∧ r.base = base ∧ r.quote = quote ∧ r.effectiveAt ≤ now := by simp
  unfold rate?
  simp only [← listed]
  cases t.rates.filter fun r => r.base = base ∧ r.quote = quote ∧ r.effectiveAt ≤ now with
  | nil => simp
  | cons r rest => exact ⟨fun _ => ⟨r, List.mem_cons_self⟩, fun _ => laterRate_some rest r⟩

structure Later (t t' : Tables) : Prop where
  held : ∀ id currency, t.HeldIn id currency → t'.HeldIn id currency
  rates : ∃ more, t'.rates = t.rates ++ more
  keys : ∀ k r, t.transactionOf? k = some r →
    ∃ r', t'.transactionOf? k = some r' ∧ r'.id = r.id ∧ r'.purpose = r.purpose

theorem Later.refl (t : Tables) : t.Later t :=
  ⟨fun _ _ held => held, ⟨[], by simp⟩, fun _ r stored => ⟨r, stored, rfl, rfl⟩⟩

theorem Later.trans (first : t.Later t') (second : t'.Later t'') : t.Later t'' := by
  refine ⟨fun id currency held => second.held id currency (first.held id currency held), ?_,
    fun k r stored => ?_⟩
  · obtain ⟨more, grown⟩ := first.rates
    obtain ⟨yet, grown'⟩ := second.rates
    exact ⟨more ++ yet, by rw [grown', grown, List.append_assoc]⟩
  · obtain ⟨r', stored', id, purpose⟩ := first.keys k r stored
    obtain ⟨r'', stored'', id', purpose'⟩ := second.keys k r' stored'
    exact ⟨r'', stored'', id'.trans id, purpose'.trans purpose⟩

theorem Later.lands (later : t.Later t') (clock : now ≤ now')
    (lands : t.Lands now currency destination) : t'.Lands now' currency destination := by
  cases destination with
  | external => trivial
  | wallet id =>
    obtain ⟨received, held, known⟩ := lands
    refine ⟨received, later.held id received held, fun apart => rate?_some.mpr ?_⟩
    obtain ⟨r, mem, base, quote, past⟩ := rate?_some.mp (known apart)
    obtain ⟨more, grown⟩ := later.rates
    exact ⟨r, grown ▸ List.mem_append_left more mem, base, quote, le_trans past clock⟩

theorem withLocked_rates (user : Int) (moment : Instant) : (t.withLocked user moment).rates = t.rates := by
  rw [withLocked_frame]

end Tables

theorem Created.rates (created : Created g t g' r legs t') : t'.rates = t.rates := by
  rw [created.frame]

theorem CarriesOut.rates (carries : CarriesOut g t g' w e status e' payout t') : t'.rates = t.rates := by
  cases carries with
  | completed _ _ created => exact created.rates
  | _ => rfl

theorem Change.rates (change : Change g t g' t') : ∃ more, t'.rates = t.rates ++ more := by
  have kept {t' : Tables} (same : t'.rates = t.rates) : ∃ more, t'.rates = t.rates ++ more :=
    ⟨[], by rw [same, List.append_nil]⟩
  cases change with
  | created created => exact kept created.rates
  | rated r => exact ⟨[r], rfl⟩
  | referred r => exact kept (Tables.withLocked_rates (t := t.withReferral r) _ _)
  | requested => exact kept (Tables.withLocked_rates _ _)
  | decided _ _ _ carries => exact kept (carries.rates.trans (Tables.withLocked_rates _ _))
  | _ => exact kept rfl

namespace Tables

variable {g g' : Gauge} {t t' : Tables}

theorem keys_withChanged {change : Transaction → Transaction} (id : TransactionId) (moment : Instant)
    (keeps : ∀ r, (change r).idempotencyKey = r.idempotencyKey ∧ (change r).id = r.id ∧
      (change r).purpose = r.purpose) (k : String) (r : Transaction)
    (stored : t.transactionOf? k = some r) :
    ∃ r', (t.withChanged id change moment).transactionOf? k = some r' ∧ r'.id = r.id ∧
      r'.purpose = r.purpose := by
  rw [transactionOf?_withChanged (fun r => (keeps r).1), stored]
  refine ⟨_, rfl, ?_⟩
  dsimp only
  split
  · exact (keeps r).2
  · exact ⟨rfl, rfl⟩

theorem keys_created (orderly : t.Orderly g) (distinct : g'.Distinct) (later : g.Before g')
    (created : Created g t g' new legs t') (k : String) (r : Transaction)
    (stored : t.transactionOf? k = some r) : t'.transactionOf? k = some r := by
  have free := (orderly.fresh distinct later created.issued).1
  rw [created.frame]
  change (Rows.put Transaction.id new t.transactions).find? _ = _
  rw [transactionOf?] at stored
  rw [Rows.put_new free, List.find?_append, stored, Option.some_or]

theorem heldIn_withWallet {id : WalletId} (free : t.wallet? w.id = none) (held : t.HeldIn id currency) :
    (t.withWallet w).HeldIn id currency := by
  unfold HeldIn wallet? at held ⊢
  unfold wallet? at free
  rw [withWallet, Rows.find?_append_new free]
  split
  · rename_i same
    rw [← same, free] at held
    cases held
  · exact held

theorem heldIn_step {id : WalletId} (step : BookStep g t g' t') (held : t.HeldIn id currency) :
    t'.HeldIn id currency := by
  cases step with
  | same books =>
    refine (heldIn_of_faces ?_).mpr held
    rw [books.wallets]
  | opened _ _ _ _ _ free => exact heldIn_withWallet free held
  | restated =>
    refine (heldIn_of_faces ?_).mpr held
    exact Rows.map_amend fun _ _ => rfl
  | created before created after =>
    refine (heldIn_of_faces ?_).mpr held
    rw [after.wallets, created.books.faces, ← before.wallets]
    rfl
  | touched => exact held

theorem Later.change (orderly : t.Orderly g) (distinct : g'.Distinct) (later : g.Before g')
    (change : Change g t g' t') : t.Later t' := by
  refine ⟨fun _ _ => heldIn_step change.books, change.rates, fun k r stored => ?_⟩
  have kept (same : t'.transactions = t.transactions) :
      ∃ r', t'.transactionOf? k = some r' ∧ r'.id = r.id ∧ r'.purpose = r.purpose :=
    ⟨r, by rw [transactionOf?, same]; exact stored, rfl, rfl⟩
  cases change.books with
  | same books => exact kept books.transactions
  | opened => exact kept rfl
  | restated => exact kept rfl
  | created before created after =>
    refine ⟨r, ?_, rfl, rfl⟩
    rw [transactionOf?, after.transactions]
    rw [transactionOf?, ← before.transactions] at stored
    exact keys_created (orderly.same_books before) distinct later created k r stored
  | touched => exact keys_withChanged _ _ (fun _ => ⟨rfl, rfl, rfl⟩) k r stored

theorem Later.settles (settles : Settles c t answer (some t')) : t.Later t' := by
  cases settles with
  | touched =>
    exact ⟨fun _ _ held => held, ⟨[], by simp [withTouched, withChanged]⟩,
      keys_withChanged _ _ fun _ => ⟨rfl, rfl, rfl⟩⟩
  | @decided _ _ _ t' _ _ _ _ _ books =>
    refine ⟨fun _ _ => (heldIn_of_faces books.faces).mpr, ⟨[], ?_⟩, fun k r stored => ?_⟩
    · rw [withChanged, books.frame, List.append_nil]
    · refine keys_withChanged _ _ ?_ k r ?_
      · exact fun _ => ⟨rfl, rfl, rfl⟩
      · rw [transactionOf?, books.transactions]
        exact stored

theorem Later.step (orderly : t.Orderly g) (distinct : g'.Distinct) (later : g.Before g')
    (step : Step g t g' t') : t.Later t' := by
  cases step with
  | change change => exact .change orderly distinct later change
  | settle c settles => exact .settles settles

end Tables

structure Server.Later (s s' : Server) : Prop where
  honest : s'.Honest
  clock : s.clock ≤ s'.clock
  tables : s.tables.Later s'.tables

namespace Server.Later

variable {s s' s'' : Server}

theorem refl (honest : s.Honest) : s.Later s := ⟨honest, le_refl _, .refl _⟩

theorem trans (first : s.Later s') (second : s'.Later s'') : s.Later s'' :=
  ⟨second.honest, le_trans first.clock second.clock, first.tables.trans second.tables⟩

end Server.Later

namespace World

-- The clock is not set back.
def Forward (w : World) (e : Event) : Prop := w.server.clock ≤ (w.take e).server.clock

instance (w : World) (e : Event) : Decidable (w.Forward e) :=
  inferInstanceAs (Decidable (w.server.clock ≤ (w.take e).server.clock))

instance decideAlways {P : World → Event → Prop} [∀ w e, Decidable (P w e)] :
    (w : World) → (events : List Event) → Decidable (w.Always P events)
  | _, [] => .isTrue trivial
  | w, e :: rest =>
    have := decideAlways (P := P) (w.take e) rest
    inferInstanceAs (Decidable (P w e ∧ (w.take e).Always P rest))

theorem Ordered.later {w : World} (ordered : w.Ordered) (distinct : (w.take e).server.gauge.Distinct)
    (forward : w.Forward e) : w.server.Later (w.take e).server := by
  obtain ⟨later, step⟩ := ordered.sound.step e
  exact ⟨(ordered.sound.take e).1.honest, forward, .step ordered.orderly distinct later step⟩

end World
end Treasury
