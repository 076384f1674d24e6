import Treasury.Proofs.Service.Operations
import Treasury.Proofs.Service.Settling
import Treasury.Proofs.World.Basic

namespace Treasury

-- The rows and what was given out, before and after one event.
inductive Step (g : Gauge) (t : Tables) (g' : Gauge) : Tables → Prop where
  | change (change : Change g t g' t') : Step g t g' t'
  | settle (c : SettleCall) (settles : Settles c t answer (some t')) : Step g t g' t'

theorem Operation.lawful (operation : Operation) :
    ∃ P, operation.activity.flow.Lawful P := by
  cases operation with
  | openWallet => exact ⟨_, Wallets.create_lawful ..⟩
  | requestWallet => exact ⟨_, Wallets.request_lawful ..⟩
  | wallet => exact ⟨_, Wallets.get_lawful ..⟩
  | walletOf => exact ⟨_, Wallets.ofOwner_lawful ..⟩
  | setWalletStatus => exact ⟨_, Wallets.setStatus_lawful ..⟩
  | verifyWallet => exact ⟨_, Wallets.verify_lawful ..⟩
  | recordRate => exact ⟨_, Rates.record_lawful ..⟩
  | rate => exact ⟨_, Rates.get_lawful ..⟩
  | convert => exact ⟨_, Rates.convert_lawful ..⟩
  | deposit => exact ⟨_, Transactions.deposit_lawful ..⟩
  | transfer => exact ⟨_, Transactions.transfer_lawful ..⟩
  | purchaseGiftCard => exact ⟨_, Transactions.purchaseGiftCard_lawful ..⟩
  | payOut => exact ⟨_, Transactions.payOut_lawful ..⟩
  | sendCrypto => exact ⟨_, Transactions.sendCrypto_lawful ..⟩
  | transaction => exact ⟨_, Transactions.get_lawful ..⟩
  | entries => exact ⟨_, Transactions.entries_lawful ..⟩
  | settle => exact ⟨_, External.settle_lawful ..⟩
  | defer => exact ⟨_, External.defer_lawful ..⟩
  | reconcile => exact ⟨_, Reconciliation.run_lawful ..⟩
  | trackReferral => exact ⟨_, Rewards.track_lawful ..⟩
  | earnings => exact ⟨_, Rewards.earnings_lawful ..⟩
  | requestWithdrawal => exact ⟨_, Rewards.request_lawful ..⟩
  | withdrawal => exact ⟨_, Rewards.get_lawful ..⟩
  | updateWithdrawal => exact ⟨_, Rewards.update_lawful ..⟩
  | sweepCatalog => exact ⟨_, CatalogSweep.sweep_lawful ..⟩

theorem External.reload_lawful (id : TransactionId) : (External.reload id).Lawful fun _ => True :=
  .unit fun _ _ => .bind (.told (.read (.keep (.found (fun _ _ => .kept trivial) fun _ => trivial))))

theorem SettleCall.answer_lawful (c : SettleCall)
    (r : Except (Halt TransactionError) External.Settled) : (c.answer r).Lawful fun _ => True := by
  rcases r with h | t | _
  · exact .done trivial
  · exact .done trivial
  · exact Flow.Lawful.bind (f := Flow.done) (External.reload_lawful c.id) fun _ _ => .done trivial

namespace World

-- No fault lies to its caller, and every activity goes on lawfully.
structure Sound (w : World) : Prop where
  honest : w.server.Honest
  lawful : ∀ a ∈ w.activities, ∃ P, a.flow.Lawful P

theorem Sound.start : World.start.Sound := ⟨by rintro _ ⟨⟩, by rintro _ ⟨⟩⟩

variable {w : World} {s : Server} {a : Activity}

theorem Sound.set (sound : w.Sound) (honest : s.Honest) (lawful : ∃ P, a.flow.Lawful P) (i : Nat) :
    Sound ⟨s, w.activities.set i a⟩ := by
  refine ⟨honest, fun b mem => ?_⟩
  rcases List.mem_or_eq_of_mem_set mem with old | rfl
  · exact sound.lawful b old
  · exact lawful

inductive Move (w : World) (e : Event) : Prop where
  | change (issued : w.server.gauge.Before (w.take e).server.gauge)
      (change : Change w.server.gauge w.server.tables (w.take e).server.gauge (w.take e).server.tables) :
      Move w e
  | call (c : SettleCall) (calls : w.Calls c e) : Move w e

theorem Move.rest (gauge : w.server.gauge.Before (w.take e).server.gauge)
    (tables : (w.take e).server.tables = w.server.tables) : Move w e := by
  refine .change gauge ?_
  rw [tables]
  exact .same

-- The answer of a settlement goes on to whoever called it.
theorem take_call {c : SettleCall} {next : Except (Halt TransactionError) Transaction → Flow answer}
    (there : w.activities[i]? = some ⟨c.flow.bind next⟩) :
    w.take (.advance i) = ⟨(c.act w.server).2,
      w.activities.set i ⟨(c.answer (c.act w.server).1).bind next⟩⟩ := by
  rw [c.flow_eq] at there
  simp only [take, there, Flow.bind]

theorem Sound.advance (sound : w.Sound) (i : Nat) :
    (w.take (.advance i)).Sound ∧ w.Move (.advance i) := by
  rcases there : w.activities[i]? with _ | ⟨⟨flow⟩⟩
  · have still : w.take (.advance i) = w := by simp only [take, there]
    exact ⟨by rwa [still], .rest (by rw [still]; exact .refl _) (by rw [still])⟩
  · obtain ⟨P, lawful⟩ : ∃ P, flow.Lawful P := sound.lawful _ (List.mem_of_getElem? there)
    cases lawful with
    | done =>
      have still : w.take (.advance i) = w := by simp only [take, there]
      exact ⟨by rwa [still], .rest (by rw [still]; exact .refl _) (by rw [still])⟩
    | ask =>
      have still : w.take (.advance i) = w := by simp only [take, there]
      exact ⟨by rwa [still], .rest (by rw [still]; exact .refl _) (by rw [still])⟩
    | @step _ act next advances rest =>
      have moved : w.take (.advance i) =
          ⟨(act w.server).2, w.activities.set i ⟨next (act w.server).1⟩⟩ := by
        simp only [take, there]
      have advanced := advances w.server sound.honest
      rw [moved]
      refine ⟨sound.set advanced.honest ⟨P, rest w.server sound.honest⟩ i, .change ?_ ?_⟩
      · rw [moved]
        exact advanced.issued
      · rw [moved]
        exact advanced.change
    | settle c call rest =>
      subst call
      refine ⟨?_, .call c ⟨i, _, _, rfl, there⟩⟩
      rw [take_call there]
      refine sound.set (c.act_ended sound.honest).honest ⟨P, ?_⟩ i
      exact (c.answer_lawful _).bind fun r _ => rest r

theorem Sound.answer (sound : w.Sound) {question : Question β} {next : β → Flow γ}
    (there : w.activities[i]? = some ⟨.ask question next⟩) (b : β) :
    Sound { w with activities := w.activities.set i ⟨next b⟩ } := by
  obtain ⟨P, lawful⟩ : ∃ P, Flow.Lawful P (.ask question next) :=
    sound.lawful _ (List.mem_of_getElem? there)
  cases lawful with
  | ask rest => exact sound.set sound.honest ⟨P, rest b⟩ i
  | settle c call =>
    rw [c.flow_eq] at call
    cases call

theorem Sound.take (sound : w.Sound) (e : Event) : (w.take e).Sound ∧ w.Move e := by
  cases e with
  | begin operation =>
    refine ⟨⟨sound.honest, fun a mem => ?_⟩, .rest (.refl _) rfl⟩
    rcases List.mem_append.mp mem with old | new
    · exact sound.lawful a old
    · rw [List.mem_singleton] at new
      subst new
      exact operation.lawful
  | advance i => exact sound.advance i
  | reply i reply =>
    have same : (w.take (.reply i reply)).server = w.server := by
      dsimp only [World.take]
      split <;> rfl
    refine ⟨?_, .rest (by rw [same]; exact .refl _) (by rw [same])⟩
    dsimp only [World.take]
    split
    · rename_i there
      exact sound.answer there reply
    · exact sound
  | page i page =>
    have same : (w.take (.page i page)).server = w.server := by
      dsimp only [World.take]
      split <;> rfl
    refine ⟨?_, .rest (by rw [same]; exact .refl _) (by rw [same])⟩
    dsimp only [World.take]
    split
    · rename_i there
      exact sound.answer there page
    · exact sound
  | availability offline => exact ⟨⟨sound.honest, sound.lawful⟩, .rest (.refl _) rfl⟩
  | failNextCommit => exact ⟨⟨sound.honest, sound.lawful⟩, .rest (.refl _) rfl⟩
  | failCall method skip error =>
    refine ⟨⟨fun f waiting => ?_, sound.lawful⟩, .rest (.refl _) rfl⟩
    rcases List.mem_append.mp waiting with old | new
    · exact sound.honest f old
    · rw [List.mem_singleton] at new
      subst new
      exact ⟨error, rfl⟩
  | clock now => exact ⟨⟨sound.honest, sound.lawful⟩, .rest (.refl _) rfl⟩

theorem Sound.after (sound : w.Sound) (events : List Event) : (w.after events).Sound := by
  induction events generalizing w with
  | nil => exact sound
  | cons e rest ih => exact ih (sound.take e).1

theorem run_sound (events : List Event) : (run events).Sound := Sound.start.after events

theorem take_call_server {c : SettleCall} (calls : w.Calls c e) :
    (w.take e).server = (c.act w.server).2 := by
  obtain ⟨i, _, _, rfl, there⟩ := calls
  rw [take_call there]

-- A call that settles leaves the rows as they were or publishes what it answers.
theorem Sound.called (sound : w.Sound) {c : SettleCall} (calls : w.Calls c e) :
    (w.take e).server.tables = w.server.tables ∨
      ∃ answer, (c.act w.server).1 = .ok answer ∧
        Settles c w.server.tables answer (some (w.take e).server.tables) := by
  have ended := c.act_ended sound.honest
  rw [take_call_server calls]
  rcases result : (c.act w.server).1 with h | answer
  · exact .inl (ended.refusal h result).1
  · obtain ⟨published, settles, tables⟩ := ended.answer answer result
    cases published with
    | none => exact .inl tables
    | some t' =>
      rw [tables]
      exact .inr ⟨answer, rfl, settles⟩

theorem Sound.step (sound : w.Sound) (e : Event) :
    w.server.gauge.Before (w.take e).server.gauge ∧
      Step w.server.gauge w.server.tables (w.take e).server.gauge (w.take e).server.tables := by
  cases (sound.take e).2 with
  | change issued change => exact ⟨issued, .change change⟩
  | call c calls =>
    refine ⟨?_, ?_⟩
    · rw [take_call_server calls]
      exact (c.act_ended sound.honest).issued
    · rcases sound.called calls with same | ⟨answer, _, settles⟩
      · rw [same]
        exact .change .same
      · exact .settle c settles

-- What every step keeps, a whole run keeps.
theorem Sound.induct {I : Gauge → Tables → Prop} (sound : w.Sound)
    (step : ∀ g t g' t', g.Before g' → Step g t g' t' → I g t → I g' t')
    (before : I w.server.gauge w.server.tables) (events : List Event) :
    I (w.after events).server.gauge (w.after events).server.tables := by
  induction events generalizing w with
  | nil => exact before
  | cons e rest ih =>
    obtain ⟨issued, stepped⟩ := sound.step e
    exact ih (sound.take e).1 (step _ _ _ _ issued stepped before)

theorem Sound.issued (sound : w.Sound) (events : List Event) :
    w.server.gauge.Before (w.after events).server.gauge :=
  sound.induct (I := fun g _ => w.server.gauge.Before g) (fun _ _ _ _ later _ before => before.trans later)
    (.refl _) events

end World
end Treasury
