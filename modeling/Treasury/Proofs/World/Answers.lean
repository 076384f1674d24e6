import Treasury.Proofs.Request.Reserving
import Treasury.Proofs.Reward.Completion

namespace Treasury

open Transactions

def Wallet.untimed (w : Wallet) : Wallet := { w with updatedAt := w.createdAt }

def Withdrawal.untimed (w : Withdrawal) : Withdrawal := { w with updatedAt := w.createdAt }

-- What stands there as `row` and what `get` answers on this server are `x`, as far as `bare` goes.
-- On a calm server `get` does answer.
structure Server.Shows (s : Server) (row : Tables → Option α) (get : Task ε α) (bare : α → α)
    (x : α) : Prop where
  stored : (row s.tables).map bare = some (bare x)
  read : ∀ (answer : {β : Type} → Question β → β) y, (get.run.runAlone answer s).1 = .ok y →
    bare y = bare x
  found : s.Calm → ∀ answer : {β : Type} → Question β → β,
    ∃ y, (get.run.runAlone answer s).1 = .ok y

theorem Task.Finds.shows {get : Task ε α} {row : Tables → Option α} {bare : α → α} {s : Server}
    (finds : get.Finds row) (honest : s.Honest) (stored : (row s.tables).map bare = some (bare x)) :
    s.Shows row get bare x := by
  obtain ⟨y, there, same⟩ := Option.map_eq_some_iff.mp stored
  have alone : get.Alone s (fun _ _ _ => ¬ s.Calm) fun a _ _ => a = y := by
    refine .acts finds honest (fun _ a _ _ found _ => ?_) (fun _ h _ missing calm => ?_)
    · exact Option.some.inj (found.1.symm.trans there)
    · cases there.symm.trans (missing calm)
  refine ⟨stored, fun answer a ran => ?_, fun calm answer => ?_⟩
  · rw [alone.answered answer ran]
    exact same
  · have answers : get.Alone s (fun _ _ _ => False) fun a _ _ => a = y :=
      Task.Ensures.mono alone (fun _ _ _ => id) fun _ _ _ struck => struck calm
    obtain ⟨a, ran, _⟩ := answers.succeeds answer
    exact ⟨a, ran⟩

def Transaction.ShownBy (x : Transaction) (s : Server) : Prop :=
  s.Shows (·.transaction? x.id) (Transactions.get x.id) Transaction.untimed x

def Withdrawal.ShownBy (w : Withdrawal) (s : Server) : Prop :=
  s.Shows (·.withdrawal? w.id) (Rewards.get w.id) Withdrawal.untimed w

def Wallet.ShownBy (w : Wallet) (s : Server) : Prop :=
  s.Shows (·.wallet? w.id) (Wallets.get w.id) Wallet.untimed w

-- A record under an identifier that was taken would replace what stood there.
theorem Step.single (step : Step g t g' t') (single : (t.transactions.map Transaction.id).Nodup) :
    (t'.transactions.map Transaction.id).Nodup := by
  cases step with
  | change change =>
    cases change.books with
    | same books => rwa [books.transactions]
    | opened | restated => exact single
    | created before created after =>
      rw [after.transactions, created.frame]
      exact Rows.nodup_put (before.transactions ▸ single)
    | touched =>
      rw [Tables.withTouched, Tables.ids_withChanged fun _ => rfl]
      exact single
  | settle c settles =>
    cases settles with
    | touched =>
      rw [Tables.withTouched, Tables.ids_withChanged fun _ => rfl]
      exact single
    | decided _ _ _ _ books =>
      rw [Tables.ids_withChanged, books.transactions]
      · exact single
      · exact fun _ => rfl

theorem World.run_ids_single (events : List Event) :
    ((run events).server.tables.transactions.map Transaction.id).Nodup :=
  Sound.start.induct (I := fun _ t => (t.transactions.map Transaction.id).Nodup)
    (fun _ _ _ _ _ step single => step.single single) .nil events

theorem Settles.stored (settles : Settles c t (.settled x) p) :
    ((p.getD t).transaction? x.id).map Transaction.untimed = some x.untimed := by
  rw [settles.id]
  cases settles with
  | stale stored => exact congrArg (Option.map Transaction.untimed) stored
  | touched stored =>
    refine (Tables.Rests.touched c.id).record.trans ?_
    exact congrArg (Option.map Transaction.untimed) stored
  | decided stored _ _ _ books =>
    exact congrArg (Option.map Transaction.untimed) (Tables.decided_record stored books)

theorem Request.Went.stored {q : Request} (went : q.Went providers s (.ok x) t calls)
    (single : (s.tables.transactions.map Transaction.id).Nodup) :
    (t.transaction? x.id).map Transaction.untimed = some x.untimed := by
  cases went with
  | replayed _ stored =>
    exact congrArg (Option.map Transaction.untimed)
      (Rows.find?_of_mem single (List.mem_of_find?_eq_some stored))
  | booked _ _ _ created => exact congrArg (Option.map Transaction.untimed) created.stored
  | settled _ settles => exact settles.stored

theorem CarriesOut.answered (carries : CarriesOut g t g' w e status e' payout t') :
    payout.or w.transactionId = payout := by
  cases carries with
  | completed => rfl
  | _ => exact Option.or_self

theorem Rewards.Decides.stored {id : WithdrawalId} (decides : Decides id status g t w g' p) :
    ((p.getD t).withdrawal? w.id).map Withdrawal.untimed = some w.untimed := by
  cases decides with
  | same stored =>
    rw [Rows.key_of_find? stored]
    exact congrArg (Option.map Withdrawal.untimed) stored
  | @decided w _ _ _ _ payout _ _ _ decided _ stored _ _ carries =>
    have number : w.id = id := Rows.key_of_find? stored
    have changed : (t.withDecided id status payout decided).withdrawal? id =
        some { w with status, transactionId := payout.or w.transactionId, updatedAt := decided } :=
      Rows.find?_amend_same (fun _ _ => rfl) stored
    rw [carries.answered] at changed
    subst number
    refine congrArg (Option.map Withdrawal.untimed) (Eq.trans ?_ changed)
    exact congrArg (Rows.find? Withdrawal.id w.id) (carries.rows w.id _ decided)

theorem Wallets.Restates.stored {id : WalletId} (restates : Restates id status t w p) :
    ((p.getD t).wallet? w.id).map Wallet.untimed = some w.untimed := by
  cases restates with
  | same stored =>
    rw [Rows.key_of_find? stored]
    exact congrArg (Option.map Wallet.untimed) stored
  | @restated w moment stored =>
    have number : w.id = id := Rows.key_of_find? stored
    have changed : (t.withStatus id status moment).wallet? id =
        some { w with status, updatedAt := moment } := Rows.find?_amend_same (fun _ _ => rfl) stored
    subst number
    exact congrArg (Option.map Wallet.untimed) changed

section Shown

variable {s : Server} (honest : s.Honest) (answer : {β : Type} → Question β → β)
include honest

theorem Request.shown (q : Request) (g : Gateway)
    (single : (s.tables.transactions.map Transaction.id).Nodup)
    (ran : ((q.task g).run.runAlone answer s).1 = .ok x) :
    x.ShownBy ((q.task g).run.runAlone answer s).2 := by
  have went := q.went g s honest answer
  rw [ran] at went
  have lawful := (q.operation g).lawful
  rw [q.operation_activity] at lawful
  obtain ⟨P, lawful⟩ := lawful
  exact (get_finds x.id).shows (lawful.onward honest answer).honest (went.stored single)

theorem SettleCall.shown (c : SettleCall) (ran : (c.flow.runAlone answer s).1 = .ok x) :
    x.ShownBy (c.flow.runAlone answer s).2 := by
  obtain ⟨onward, ⟨h, _, failed, _⟩ | ⟨r, p, answered, settles, tables⟩⟩ := c.ends honest answer
  · cases ran.symm.trans failed
  · cases ran.symm.trans answered
    exact (get_finds x.id).shows onward.honest (tables ▸ settles.stored)

theorem Rewards.update_shown (id : WithdrawalId) (status : WithdrawalStatus)
    (ran : ((update id status).run.runAlone answer s).1 = .ok w) :
    w.ShownBy ((update id status).run.runAlone answer s).2 := by
  have alone : (update id status).Alone s (fun _ _ _ => True) fun w s' _ => w.ShownBy s' := by
    refine .acts (update_acts id status) honest (fun s' w p onward decides tables => ?_)
      fun _ _ _ _ => trivial
    exact (get_finds w.id).shows onward.honest (tables ▸ decides.stored)
  exact alone.answered answer ran

theorem Wallets.setStatus_shown (id : WalletId) (status : WalletStatus)
    (ran : ((setStatus id status).run.runAlone answer s).1 = .ok w) :
    w.ShownBy ((setStatus id status).run.runAlone answer s).2 := by
  have alone : (setStatus id status).Alone s (fun _ _ _ => True) fun w s' _ => w.ShownBy s' := by
    refine .acts (setStatus_acts id status) honest (fun s' w p onward restates tables => ?_)
      fun _ _ _ _ => trivial
    exact (get_finds w.id).shows onward.honest (tables ▸ restates.stored)
  exact alone.answered answer ran

end Shown

namespace World

-- Whatever record a request or a settlement is answered with stands there in the end, and so does
-- the withdrawal request that was decided and the wallet that was given a status. Looking it up
-- right after finds it again.
theorem run_answers_stored (events : List Event) (answer : {β : Type} → Question β → β) :
    let before := (run events).server
    (∀ (q : Request) (g : Gateway) (x : Transaction),
      let ended := (q.task g).run.runAlone answer before
      ended.1 = .ok x → x.ShownBy ended.2) ∧
    (∀ (id : TransactionId) (expected : TransactionStatus) (provider : String) (outcome : Outcome)
        (x : Transaction),
      let ended := (External.settle id expected provider outcome).run.runAlone answer before
      ended.1 = .ok x → x.ShownBy ended.2) ∧
    (∀ (id : WithdrawalId) (status : WithdrawalStatus) (w : Withdrawal),
      let ended := (Rewards.update id status).run.runAlone answer before
      ended.1 = .ok w → w.ShownBy ended.2) ∧
    ∀ (id : WalletId) (status : WalletStatus) (w : Wallet),
      let ended := (Wallets.setStatus id status).run.runAlone answer before
      ended.1 = .ok w → w.ShownBy ended.2 := by
  have honest := (run_sound events).honest
  refine ⟨fun q g x ran => ?_, fun id expected provider outcome x ran => ?_,
    fun id status w ran => ?_, fun id status w ran => ?_⟩
  · exact q.shown honest answer g (run_ids_single events) ran
  · exact SettleCall.shown honest answer ⟨id, expected, provider, outcome⟩ ran
  · exact Rewards.update_shown honest answer id status ran
  · exact Wallets.setStatus_shown honest answer id status ran

-- A payout gets no answer in time, another whose outcome was lost turns out to have succeeded, a
-- withdrawal request is paid out, and a wallet is frozen. Each row was written at another moment than
-- its answer says.
theorem run_answers_stored_later :
    let asked := (Request.bankPayout.task Request.bankGateway).run.runAlone silence
      (run depositEvents).server
    let paid := (External.settle (Supply.transaction ⟨4⟩) .unknown "bank"
      (.success "ref" (some (.ofCents 1200 (by decide))))).run.runAlone silence
        (run (payoutEvents (.unknown none))).server
    let withdrawn := (Rewards.update (Supply.withdrawal ⟨2⟩) .completed).run.runAlone silence
      (run requestedEvents).server
    let frozen := (Wallets.setStatus (Supply.wallet ⟨0⟩) .frozen).run.runAlone silence
      (run depositEvents).server
    (∃ x, asked.1 = .ok x ∧ x.status = .unknown ∧ asked.2.tables.transaction? x.id ≠ some x ∧
      x.ShownBy asked.2) ∧
    (∃ x, paid.1 = .ok x ∧ x.status = .succeeded ∧ paid.2.tables.transaction? x.id ≠ some x ∧
      x.ShownBy paid.2) ∧
    (∃ w, withdrawn.1 = .ok w ∧ w.transactionId.isSome ∧
      withdrawn.2.tables.withdrawal? w.id ≠ some w ∧ w.ShownBy withdrawn.2) ∧
    ∃ w, frozen.1 = .ok w ∧ w.status = .frozen ∧ frozen.2.tables.wallet? w.id ≠ some w ∧
      w.ShownBy frozen.2 := by
  refine ⟨⟨_, rfl, rfl, by decide +kernel, ?_⟩, ⟨_, rfl, rfl, by decide +kernel, ?_⟩,
    ⟨_, rfl, rfl, by decide +kernel, ?_⟩, ⟨_, rfl, rfl, by decide +kernel, ?_⟩⟩
  · exact (run_answers_stored depositEvents silence).1 _ _ _ rfl
  · exact (run_answers_stored (payoutEvents (.unknown none)) silence).2.1 _ _ _ _ _ rfl
  · exact (run_answers_stored requestedEvents silence).2.2.1 _ _ _ rfl
  · exact (run_answers_stored depositEvents silence).2.2.2 _ _ _ rfl

end World
end Treasury
