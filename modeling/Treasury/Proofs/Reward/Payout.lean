import Treasury.Proofs.Reward.Requests

namespace Treasury

open Transactions

-- The record pays the request out.
structure Transaction.Pays (r : Transaction) (w : Withdrawal) : Prop where
  kind : r.kind = .referralPayout
  status : r.status = .succeeded
  wallet : r.walletId = w.walletId
  amount : r.amount = w.amount
  fee : r.fee = 0
  details : r.details = .referral w.id

def rewardLines (w : Withdrawal) (currency : Currency) : List Line :=
  [⟨.rewards, currency, -w.amount, -w.amount⟩, ⟨.wallet w.walletId, currency, w.amount, w.amount⟩]

theorem Transaction.Pays.untimed {r : Transaction} : r.untimed.Pays w ↔ r.Pays w :=
  ⟨fun pays => ⟨pays.kind, pays.status, pays.wallet, pays.amount, pays.fee, pays.details⟩,
    fun pays => ⟨pays.kind, pays.status, pays.wallet, pays.amount, pays.fee, pays.details⟩⟩

namespace Tables

variable {g g' : Gauge} {t t' : Tables} {w : Withdrawal} {id : TransactionId}

-- The identifier names a payout of the request, which has booked what it pays.
def Paid (t : Tables) (w : Withdrawal) (id : TransactionId) : Prop :=
  ∃ r, t.transaction? id = some r ∧ r.Pays w ∧
    (t.entriesOf id).map Entry.line = rewardLines w r.currency

structure PaidOut (t : Tables) : Prop where
  completed : ∀ w ∈ t.withdrawals, w.status = .completed ↔ w.transactionId.isSome = true
  paid : ∀ w ∈ t.withdrawals, ∀ id, w.transactionId = some id → t.Paid w id
  owned : ∀ r ∈ t.transactions, r.kind = .referralPayout →
    ∃ w ∈ t.withdrawals, w.transactionId = some r.id

theorem Rests.step (orderly : t.Orderly g) (distinct : g'.Distinct) (later : g.Before g')
    (step : Step g t g' t') (stored : t.transaction? id = some r) (final : r.status.isFinal = true) :
    t.Rests id t' := by
  cases step with
  | change change => exact .change orderly distinct later change stored
  | settle c settles =>
    by_cases mine : id = c.id
    · subst mine
      cases settles with
      | touched => exact .touched _
      | decided there current moves =>
        cases stored.symm.trans there
        rw [← current, World.canBecome_final final] at moves
        cases moves
    · exact .settled settles mine

theorem Paid.step (paid : t.Paid w id) (orderly : t.Orderly g) (distinct : g'.Distinct)
    (later : g.Before g') (step : Step g t g' t') : t'.Paid w id := by
  obtain ⟨r, stored, pays, lines⟩ := paid
  have rests := Rests.step orderly distinct later step stored (by rw [pays.status]; rfl)
  have record := rests.record
  rw [stored, Option.map_some, Option.map_eq_some_iff] at record
  obtain ⟨r', stored', same⟩ := record
  have currency := congrArg Transaction.currency same
  refine ⟨r', stored', ?_, ?_⟩
  · rw [← Transaction.Pays.untimed, same]
    exact Transaction.Pays.untimed.mpr pays
  · rw [rests.entries]
    exact lines.trans (congrArg (rewardLines w) currency).symm

theorem Paid.created (orderly : t.Orderly g) (distinct : g'.Distinct) (later : g.Before g')
    (stored : t.wallet? w.walletId = some wallet)
    (shape : r = { (Rewards.payoutDraft w wallet).toTransaction r.id now with status := .succeeded })
    (created : Created g t g' r (payoutLegs wallet w.amount) t') : t'.Paid w r.id := by
  obtain ⟨free, silent⟩ := orderly.fresh distinct later created.issued
  have held : wallet.id = w.walletId := Rows.key_of_find? stored
  have pays : r.Pays w := by
    rw [shape]
    exact ⟨rfl, rfl, held, rfl, rfl, rfl⟩
  have currency : r.currency = wallet.currency := by rw [shape]; rfl
  refine ⟨r, ?_, pays, ?_⟩
  · rw [created.frame, transaction?]
    exact (Rows.find?_put r.id).trans (if_pos rfl)
  · have nothing : (t.withTransaction r).entriesOf r.id = [] := silent
    rw [created.books.entriesOf_same, nothing, currency, rewardLines, ← held]
    rfl

end Tables

namespace CarriesOut

variable {g g' : Gauge} {t t' : Tables} {r : Transaction}

theorem payouts (carries : CarriesOut g t g' w e status e' payout t') (mem : r ∈ t'.transactions) :
    r ∈ t.transactions ∨ payout = some r.id := by
  cases carries with
  | completed _ _ created =>
    rw [created.frame] at mem
    rcases Rows.mem_put mem with new | ⟨old, _⟩
    · exact .inr (congrArg (fun r => some r.id) new.symm)
    · exact .inl old
  | rejected => exact .inl mem
  | approved => exact .inl mem
  | pending => exact .inl mem

end CarriesOut

namespace Tables

variable {g g' : Gauge} {t t' : Tables} {r : Transaction}

def PayoutsOf (t t' : Tables) : Prop :=
  ∀ r ∈ t'.transactions, r.kind = .referralPayout →
    ∃ old ∈ t.transactions, old.id = r.id ∧ old.kind = .referralPayout

theorem PayoutsOf.same (transactions : t'.transactions = t.transactions) : t.PayoutsOf t' :=
  fun r mem payout => ⟨r, transactions ▸ mem, rfl, payout⟩

theorem PayoutsOf.changed {change : Transaction → Transaction} {t₁ : Tables}
    (keeps : ∀ r, (change r).id = r.id ∧ (change r).kind = r.kind)
    (transactions : t₁.transactions = t.transactions) :
    t.PayoutsOf (t₁.withChanged number change moment) := by
  intro r mem payout
  rcases Rows.mem_amend.mp mem with ⟨old, _⟩ | ⟨old, there, _, rfl⟩
  · exact ⟨r, transactions ▸ old, rfl, payout⟩
  · exact ⟨old, transactions ▸ there, (keeps old).1.symm, (keeps old).2.symm.trans payout⟩

-- Only the completion of a request brings a payout, and the request names it.
theorem payouts_step (step : Step g t g' t') (mem : r ∈ t'.transactions)
    (payout : r.kind = .referralPayout) :
    (∃ old ∈ t.transactions, old.id = r.id ∧ old.kind = .referralPayout) ∨
      ∃ w ∈ t'.withdrawals, w.transactionId = some r.id := by
  have kept (payouts : t.PayoutsOf t') := payouts r mem payout
  cases step with
  | settle c settles =>
    cases settles with
    | touched => exact .inl (kept (.changed (fun _ => ⟨rfl, rfl⟩) rfl))
    | decided _ _ _ _ books => exact .inl (kept (.changed (fun _ => ⟨rfl, rfl⟩) books.transactions))
  | change change =>
    cases change with
    | created created own =>
      rw [created.frame] at mem
      rcases Rows.mem_put mem with rfl | ⟨old, _⟩
      · exact absurd payout own
      · exact .inl ⟨r, old, rfl, payout⟩
    | deferred => exact .inl (kept (.changed (fun _ => ⟨rfl, rfl⟩) rfl))
    | referred r => exact .inl (kept (.same (SameBooks.withLocked (t := t.withReferral r) _ _).transactions))
    | requested => exact .inl (kept (.same (SameBooks.withLocked _ _).transactions))
    | decided stored moves locked carries =>
      rcases carries.payouts mem with old | named
      · rw [(SameBooks.withLocked _ _).transactions] at old
        exact .inl ⟨r, old, rfl, payout⟩
      · subst named
        rw [carries.rows]
        exact .inr ⟨_, Rows.mem_amend.mpr (.inr ⟨_, Rows.mem_of_find? stored,
          Rows.key_of_find? stored, rfl⟩), rfl⟩
    | _ => exact .inl (kept (.same rfl))

theorem Paid.decided {id : TransactionId} (paid : t.Paid w id) (books : t.SameBooks t') :
    t'.Paid { w with status, transactionId := payout, updatedAt := moment } id := by
  obtain ⟨r, stored, pays, lines⟩ := paid
  refine ⟨r, ?_, ⟨pays.kind, pays.status, pays.wallet, pays.amount, pays.fee, pays.details⟩, ?_⟩
  · rw [transaction?, books.transactions]
    exact stored
  · rw [entriesOf, books.entries]
    exact lines

namespace PaidOut

theorem empty : Tables.empty.PaidOut := ⟨by rintro _ ⟨⟩, by rintro _ ⟨⟩, by rintro _ ⟨⟩⟩

theorem unpaid (paidOut : t.PaidOut) (stored : t.withdrawal? number = some w)
    (moves : w.status.canBecome status = true) : w.transactionId = none := by
  cases named : w.transactionId with
  | none => rfl
  | some id =>
    have completed := (paidOut.completed w (Rows.mem_of_find? stored)).mpr (by rw [named]; rfl)
    rw [completed] at moves
    cases moves

-- Completed requests have been paid and no other ones, and what paid them stays.
theorem requests (paidOut : t.PaidOut) (filed : t.Filed g) (orderly : t.Orderly g)
    (distinct : g'.Distinct) (later : g.Before g') (step : Step g t g' t') (x : Withdrawal)
    (mem : x ∈ t'.withdrawals) :
    (x.status = .completed ↔ x.transactionId.isSome = true) ∧
      ∀ id, x.transactionId = some id → t'.Paid x id := by
  have stays (there : x ∈ t.withdrawals) :
      (x.status = .completed ↔ x.transactionId.isSome = true) ∧
        ∀ id, x.transactionId = some id → t'.Paid x id :=
    ⟨paidOut.completed x there,
      fun id named => (paidOut.paid x there id named).step orderly distinct later step⟩
  cases step.requests with
  | same rows => exact stays (rows ▸ mem)
  | opened w given _ waits unpaid rows =>
    rw [rows] at mem
    rcases Rows.mem_put mem with rfl | ⟨old, _⟩
    · simp [waits, unpaid]
    · exact stays old
  | decided stored moves before carries after rows =>
    rw [rows] at mem
    rcases filed.decided stored mem with old | rfl
    · exact stays old
    · have unpaid := paidOut.unpaid stored moves
      cases carries with
      | completed held shape created =>
        refine ⟨by simp, fun id named => ?_⟩
        cases named
        exact (Paid.created (orderly.same_books before) distinct later held shape created).decided after
      | rejected => simp [unpaid]
      | approved => simp [unpaid]
      | pending => simp [unpaid]

theorem step (paidOut : t.PaidOut) (filed : t.Filed g) (orderly : t.Orderly g) (distinct : g'.Distinct)
    (apart : g'.Apart Supply.withdrawal) (later : g.Before g') (step : Step g t g' t') :
    t'.PaidOut := by
  have requests := paidOut.requests filed orderly distinct later step
  refine ⟨fun x mem => (requests x mem).1, fun x mem => (requests x mem).2, fun r mem payout => ?_⟩
  rcases payouts_step step mem payout with ⟨old, there, same, payout⟩ | named
  · obtain ⟨w, mem, named⟩ := paidOut.owned old there payout
    have completed := (paidOut.completed w mem).mpr (by rw [named]; rfl)
    refine ⟨w, filed.kept apart later step mem (by rw [completed]; rfl), ?_⟩
    rw [named, same]
  · exact named

end PaidOut
end Tables

namespace World

variable {w : World}

theorem Ordered.paidOut (ordered : w.Ordered) (filed : w.server.tables.Filed w.server.gauge)
    (paidOut : w.server.tables.PaidOut) (events : List Event)
    (distinct : (w.after events).server.gauge.Distinct)
    (apart : (w.after events).server.gauge.Apart Supply.withdrawal) :
    (w.after events).server.tables.PaidOut := by
  induction events generalizing w with
  | nil => exact paidOut
  | cons e rest ih =>
    obtain ⟨later, step⟩ := ordered.sound.step e
    have issued := (ordered.sound.take e).1.issued rest
    have next := distinct.before issued
    have far := apart.before issued
    refine ih (ordered.take next) (filed.step far later step) ?_ distinct apart
    exact paidOut.step filed ordered.orderly next far later step

-- In every state of every run, completed requests and payouts belong to each other one to one, and
-- a request that is over is never touched again.
theorem run_paid_out (early late : List Event)
    (distinct : (run (early ++ late)).server.gauge.Distinct)
    (apart : (run (early ++ late)).server.gauge.Apart Supply.withdrawal) :
    (∀ w ∈ (run early).server.tables.withdrawals,
      (w.status = .completed ↔ w.transactionId.isSome = true) ∧
      (∀ id, w.transactionId = some id → (run early).server.tables.Paid w id) ∧
      (w.status = .completed ∨ w.status = .rejected →
        (run (early ++ late)).server.tables.withdrawal? w.id = some w)) ∧
    ∀ r ∈ (run early).server.tables.transactions, r.kind = .referralPayout →
      ∃! w, w ∈ (run early).server.tables.withdrawals ∧ w.status = .completed ∧
        w.transactionId = some r.id := by
  have last := run_filed (early ++ late) apart
  rw [run_append] at distinct apart last
  have issued := (run_sound early).issued late
  have ordered := run_ordered early (distinct.before issued)
  have filed := run_filed early (apart.before issued)
  have paidOut : (run early).server.tables.PaidOut :=
    (run_ordered [] (Gauge.distinct_of_le (by decide))).paidOut (.empty _) .empty early
      (distinct.before issued) (apart.before issued)
  refine ⟨fun w mem => ⟨paidOut.completed w mem, paidOut.paid w mem, fun ended => ?_⟩, fun r mem payout => ?_⟩
  · rw [run_append]
    have final : w.status.isFinal = true := by
      rcases ended with ended | ended <;> rw [ended] <;> rfl
    exact last.found ((run_sound early).keeps filed late apart mem final)
  · obtain ⟨w, there, named⟩ := paidOut.owned r mem payout
    refine ⟨w, ⟨there, (paidOut.completed w there).mpr (by rw [named]; rfl), named⟩, ?_⟩
    rintro w' ⟨there', _, named'⟩
    -- The record tells which request it pays.
    obtain ⟨x, found, pays, _⟩ := paidOut.paid w there r.id named
    obtain ⟨x', found', pays', _⟩ := paidOut.paid w' there' r.id named'
    cases found.symm.trans found'
    have same : w'.id = w.id := Details.referral.inj (pays'.details.symm.trans pays.details)
    have there' := filed.found there'
    rw [same, filed.found there] at there'
    exact (Option.some.inj there').symm

def withdrawalEvents : List Event :=
  [.begin (.openWallet 7 .ngn .personal), .advance 0,
    .begin (.trackReferral 7 8 (.ofCents 2000000 (by decide))), .advance 1,
    .begin (.requestWithdrawal .standard 7 (.ofCents 1500000 (by decide))), .advance 2,
    .begin (.updateWithdrawal (Supply.withdrawal ⟨2⟩) .completed), .advance 3]

def lateRejection : List Event :=
  [.begin (.updateWithdrawal (Supply.withdrawal ⟨2⟩) .rejected), .advance 4]

theorem run_paid_out_kept : ∃ w id, (run withdrawalEvents).server.tables.withdrawals = [w] ∧
    w.transactionId = some id ∧ (run withdrawalEvents).server.tables.Paid w id ∧
    (run (withdrawalEvents ++ lateRejection)).server.tables.withdrawal? w.id = some w := by
  have settled := (run_paid_out withdrawalEvents lateRejection
    (Gauge.distinct_of_le (by decide +kernel)) (Gauge.apart_withdrawal (by decide +kernel))).1
  obtain ⟨w, id, rows, status, named⟩ :
      ∃ w id, (run withdrawalEvents).server.tables.withdrawals = [w] ∧ w.status = .completed ∧
        w.transactionId = some id := ⟨_, _, rfl, rfl, rfl⟩
  obtain ⟨_, paid, kept⟩ := settled w (by rw [rows]; exact List.mem_singleton_self w)
  exact ⟨w, id, rows, named, paid id named, kept (.inl status)⟩

end World
end Treasury
