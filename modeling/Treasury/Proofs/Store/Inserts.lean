import Treasury.Proofs.Store.Use

namespace Treasury

-- The row as it was inserted, as far as no later call changes it.
def Wallet.issued (w : Wallet) : Wallet :=
  { w with balance := 0, status := .active, updatedAt := w.createdAt }

def Transaction.issued (r : Transaction) : Transaction :=
  { r with
    status := .pending, externalReference := none, failure := none, details := .deposit ""
    updatedAt := r.createdAt }

def Withdrawal.issued (w : Withdrawal) : Withdrawal :=
  { w with status := .pending, transactionId := none, updatedAt := w.createdAt }

theorem Transaction.id_of_issued {a b : Transaction} (same : a.issued = b.issued) : a.id = b.id := by
  change a.issued.id = b.issued.id
  rw [same]

theorem Transaction.key_of_issued {a b : Transaction} (same : a.issued = b.issued) :
    a.idempotencyKey = b.idempotencyKey := by
  change a.issued.idempotencyKey = b.issued.idempotencyKey
  rw [same]

theorem Withdrawal.id_of_issued {a b : Withdrawal} (same : a.issued = b.issued) : a.id = b.id := by
  change a.issued.id = b.issued.id
  rw [same]

namespace Rows

variable {α β κ : Type} [DecidableEq κ] {key : α → κ} {row : α} {rows base : List α} {f : α → β}

theorem prefix_put_same (free : find? key (key row) rows = none) : rows <+: put key row rows := by
  rw [put_new free]
  exact List.prefix_append _ _

theorem prefix_amend {k : κ} {change : α → α} (front : base.map f <+: rows.map f)
    (keeps : ∀ r, key r = k → f (change r) = f r) :
    base.map f <+: (amend key k change rows).map f := by
  rwa [map_amend keeps]

theorem prefix_put (front : base.map f <+: rows.map f) (told : ∀ a b, f a = f b → key a = key b)
    (free : find? key (key row) base = none) : base.map f <+: (put key row rows).map f := by
  unfold put
  split
  · obtain ⟨rest, same⟩ := front
    obtain ⟨first, later, rfl, held, -⟩ := List.map_eq_append_iff.mp same.symm
    have other : ∀ r ∈ first, key r ≠ key row := by
      intro r mem taken
      obtain ⟨b, stored, alike⟩ := List.mem_map.mp (held ▸ List.mem_map_of_mem mem : f r ∈ base.map f)
      exact find?_none.mp free (List.mem_map.mpr ⟨b, stored, (told b r alike).trans taken⟩)
    have kept : amend key (key row) (fun _ => row) first = first :=
      (List.map_congr_left fun r mem => if_neg (other r mem)).trans (List.map_id' first)
    rw [amend, List.map_append, ← amend, kept, List.map_append, held]
    exact List.prefix_append _ _
  · rw [List.map_append]
    exact front.trans (List.prefix_append _ _)

end Rows

namespace Tables

variable {t t' base : Tables}

-- All rows of these kinds are there as they were, in front of any others.
structure Extends (t t' : Tables) : Prop where
  wallets : t.wallets <+: t'.wallets
  transactions : t.transactions <+: t'.transactions
  referrals : t.referrals <+: t'.referrals
  withdrawals : t.withdrawals <+: t'.withdrawals

theorem Extends.refl (t : Tables) : t.Extends t :=
  ⟨List.prefix_rfl, List.prefix_rfl, List.prefix_rfl, List.prefix_rfl⟩

theorem transactionOf?_lasts
    (lasts : base.transactions.map Transaction.issued <+: t.transactions.map Transaction.issued)
    (taken : (base.transactionOf? key).isSome) : (t.transactionOf? key).isSome := by
  obtain ⟨r, stored, keyed⟩ := List.find?_isSome.mp taken
  have there : r.issued ∈ t.transactions.map Transaction.issued :=
    lasts.subset (List.mem_map_of_mem stored)
  obtain ⟨r', stored', same⟩ := List.mem_map.mp there
  exact List.find?_isSome.mpr ⟨r', stored', by rwa [Transaction.key_of_issued same]⟩

end Tables

theorem Work.refuse_run {look : Tables → β} {p : β → Prop} [DecidablePred p] {e : ε}
    {w : β → Work ε α} {s : Session} (found : p (look s.staged)) :
    (Work.staged look >>= fun b => if p b then Work.refuse e else w b).run.run s =
      (.error (.refused e), s) := by
  change (if p (look s.staged) then Work.refuse e else w (look s.staged)).run.run s = _
  rw [if_pos found]
  rfl

namespace StoreCall

variable {t t' base : Tables} {c : StoreCall}

def inserts : StoreCall → Bool
  | .insertWallet _ | .insertTransaction _ | .insertReferral _ | .insertWithdrawalRequest _ => true
  | _ => false

def repeats (t : Tables) : StoreCall → Bool
  | .insertWallet w => (t.wallet? w.id).isSome
  | .insertTransaction r => (t.transaction? r.id).isSome
  | .insertReferral r => (t.referral? r.refereeId).isSome
  | .insertWithdrawalRequest w => (t.withdrawal? w.id).isSome
  | _ => false

-- One that the store does not notice.
def overwrites (t : Tables) : StoreCall → Bool
  | .insertTransaction r => (t.transaction? r.id).isSome &&
      !r.idempotencyKey.any fun key => (t.transactionOf? key).isSome
  | .insertWithdrawalRequest w => (t.withdrawal? w.id).isSome
  | _ => false

theorem transaction_new {r : Transaction} (spares : (insertTransaction r).overwrites base = false)
    (lasts : base.transactions.map Transaction.issued <+: t.transactions.map Transaction.issued)
    (free : ∀ key, r.idempotencyKey = some key → t.transactionOf? key = none) :
    base.transaction? r.id = none := by
  by_contra stored
  have there := Option.isSome_iff_ne_none.mpr stored
  simp only [overwrites, there, Bool.true_and, Bool.not_eq_false', Option.any_eq_true] at spares
  obtain ⟨key, keyed, taken⟩ := spares
  have held := Tables.transactionOf?_lasts lasts taken
  rw [free key keyed] at held
  cases held

theorem withdrawal_new {w : Withdrawal}
    (spares : (insertWithdrawalRequest w).overwrites base = false) : base.withdrawal? w.id = none := by
  simpa [overwrites] using spares

namespace Effect

variable (effect : Effect t c t')
include effect

theorem extends_insert (insert : c.inserts = true) (spares : c.overwrites t = false) :
    t.Extends t' := by
  cases effect with
  | nothing => exact .refl t
  | insertWallet => exact { Tables.Extends.refl t with wallets := List.prefix_append _ _ }
  | insertReferral => exact { Tables.Extends.refl t with referrals := List.prefix_append _ _ }
  | insertTransaction free =>
    have fresh := transaction_new spares List.prefix_rfl free
    exact { Tables.Extends.refl t with transactions := Rows.prefix_put_same fresh }
  | insertWithdrawalRequest =>
    have fresh := withdrawal_new spares
    exact { Tables.Extends.refl t with withdrawals := Rows.prefix_put_same fresh }
  | _ => simp [inserts] at insert

-- No call takes away what was inserted before, and none changes more of it than an update may.
theorem wallets_last {base : List Wallet}
    (front : base.map Wallet.issued <+: t.wallets.map Wallet.issued) :
    base.map Wallet.issued <+: t'.wallets.map Wallet.issued := by
  cases effect with
  | insertWallet => exact front.trans ((List.prefix_append _ _).map _)
  | updateWalletBalance | updateWalletStatus => exact Rows.prefix_amend front fun _ _ => rfl
  | lockEarnings =>
    rw [Tables.withLocked_frame]
    exact front
  | _ => exact front

theorem referrals_last {base : List Referral} (front : base <+: t.referrals) :
    base <+: t'.referrals := by
  cases effect with
  | insertReferral => exact front.trans (List.prefix_append _ _)
  | lockEarnings =>
    rw [Tables.withLocked_frame]
    exact front
  | _ => exact front

theorem transactions_last (spares : ∀ r, c = .insertTransaction r → c.overwrites base = false)
    (front : base.transactions.map Transaction.issued <+: t.transactions.map Transaction.issued) :
    base.transactions.map Transaction.issued <+: t'.transactions.map Transaction.issued := by
  cases effect with
  | insertTransaction free =>
    have fresh := transaction_new (spares _ rfl) front free
    exact Rows.prefix_put front (fun _ _ => Transaction.id_of_issued) fresh
  | updateTransactionIf | touchTransactionIf => exact Rows.prefix_amend front fun _ _ => rfl
  | lockEarnings =>
    rw [Tables.withLocked_frame]
    exact front
  | _ => exact front

theorem withdrawals_last (spares : ∀ w, c = .insertWithdrawalRequest w → c.overwrites base = false)
    (front : base.withdrawals.map Withdrawal.issued <+: t.withdrawals.map Withdrawal.issued) :
    base.withdrawals.map Withdrawal.issued <+: t'.withdrawals.map Withdrawal.issued := by
  cases effect with
  | insertWithdrawalRequest =>
    have fresh := withdrawal_new (spares _ rfl)
    exact Rows.prefix_put front (fun _ _ => Withdrawal.id_of_issued) fresh
  | updateWithdrawalRequest => exact Rows.prefix_amend front fun _ _ => rfl
  | lockEarnings =>
    rw [Tables.withLocked_frame]
    exact front
  | _ => exact front

end Effect

-- Where nothing strikes, the store says so of every insert that it notices.
theorem refused {s : Session} (faultless : s.server.faults = []) (taken : c.repeats s.staged = true)
    (spares : c.overwrites s.staged = false) : ∃ constraint,
      c.work.run.run s = (.error (.refused (.uniqueViolation constraint)), s) := by
  cases c with
  | insertWallet w =>
    refine ⟨_, (Work.call_faultless faultless).trans (Work.refuse_run ?_)⟩
    simpa [repeats] using .inr taken
  | insertTransaction r =>
    refine ⟨_, (Work.call_faultless faultless).trans (Work.refuse_run ?_)⟩
    change (s.staged.transaction? r.id).isSome = true at taken
    simpa only [overwrites, taken, Bool.true_and, Bool.not_eq_false'] using spares
  | insertReferral r => exact ⟨_, (Work.call_faultless faultless).trans (Work.refuse_run taken)⟩
  | insertWithdrawalRequest w => exact absurd (taken.symm.trans spares) (by decide)
  | _ => simp [repeats] at taken

end StoreCall

-- What was stored before some calls is stored after them, with all that no update changes. Of
-- transactions and withdrawal requests this is said where none of the calls overwrites one.
structure Tables.Spared (t : Tables) (calls : List StoreCall) (t' : Tables) : Prop where
  wallets : t.wallets.map Wallet.issued <+: t'.wallets.map Wallet.issued
  referrals : t.referrals <+: t'.referrals
  transactions : (∀ r, .insertTransaction r ∈ calls →
      StoreCall.overwrites t (.insertTransaction r) = false) →
    t.transactions.map Transaction.issued <+: t'.transactions.map Transaction.issued
  withdrawals : (∀ w, .insertWithdrawalRequest w ∈ calls →
      StoreCall.overwrites t (.insertWithdrawalRequest w) = false) →
    t.withdrawals.map Withdrawal.issued <+: t'.withdrawals.map Withdrawal.issued

namespace Tables.Spared

theorem refl (t : Tables) (calls : List StoreCall) : t.Spared calls t :=
  ⟨List.prefix_rfl, List.prefix_rfl, fun _ => List.prefix_rfl, fun _ => List.prefix_rfl⟩

theorem step {t t' base : Tables} {calls : List StoreCall} {c : StoreCall}
    (spared : base.Spared calls t) (mem : c ∈ calls) (effect : StoreCall.Effect t c t') :
    base.Spared calls t' where
  wallets := effect.wallets_last spared.wallets
  referrals := effect.referrals_last spared.referrals
  transactions spares := by
    refine effect.transactions_last ?_ (spared.transactions spares)
    rintro r rfl
    exact spares r mem
  withdrawals spares := by
    refine effect.withdrawals_last ?_ (spared.withdrawals spares)
    rintro w rfl
    exact spares w mem

end Tables.Spared

namespace StoreCall

-- An insert under a key that is taken is refused, and any other one adds its row behind those that
-- are there: so nothing that was stored is ever replaced, whatever is called, strikes or fails
-- to be committed. Only a transaction and a withdrawal request can slip past the check.
theorem inserts_spare (s : Session) :
    (∀ c : StoreCall, s.server.faults = [] → c.repeats s.staged = true →
      c.overwrites s.staged = false →
        ∃ constraint, c.work.run.run s = (.error (.refused (.uniqueViolation constraint)), s)) ∧
    (∀ c : StoreCall, c.inserts = true → c.overwrites s.staged = false →
      s.staged.Extends (c.work.run.run s).2.staged) ∧
    (∀ calls : List StoreCall, s.staged.Spared calls ((all calls).run.run s).2.staged) ∧
    ∀ events : List StoreEvent,
      s.server.tables.Spared (events.flatMap StoreEvent.calls)
        (events.foldl Server.use s.server).tables := by
  refine ⟨fun c faultless taken spares => refused faultless taken spares,
    fun c insert spares => ?_, fun calls => ?_, fun events => ?_⟩
  · exact (c.drafts fun t' effect => effect.extends_insert insert spares) s.server |>.2
  · exact (all_drafts (fun c mem t t' effect spared => spared.step mem effect) (.refl _ _) s.server).2
  · refine Server.foldl_keeps (fun e mem c call t t' effect spared => ?_) (.refl _ _)
    exact spared.step (List.mem_flatMap.mpr ⟨e, mem, call⟩) effect

def booked (number : Nat) (key : Option String) : Transaction :=
  Draft.toTransaction ⟨key, .deposit, Supply.wallet ⟨0⟩, 1, .ngn, 1, 0, none, "", .deposit ""⟩
    (Supply.transaction ⟨number⟩) Server.epoch

def asked (number : Nat) : Withdrawal :=
  ⟨Supply.withdrawal ⟨number⟩, 1, 1, Supply.wallet ⟨0⟩, .pending, none, Server.epoch, Server.epoch⟩

def opened (number : Nat) : Wallet :=
  ⟨Supply.wallet ⟨number⟩, number, .ngn, 0, .personal, .active, Server.epoch, Server.epoch⟩

-- One row of each kind, settled since.
def settledEvents : List StoreEvent :=
  [.unit [.insertWallet (opened 0), .insertTransaction (booked 0 (some "first")),
      .insertWithdrawalRequest (asked 0)] true,
    .unit [.updateTransactionIf (booked 0 none).id .pending ⟨.succeeded, none, none, .deposit ""⟩,
      .updateWithdrawalRequest (asked 0).id .completed (some (booked 0 none).id)] true]

-- A fresh row takes the place of a settled one where the store does not look.
theorem inserts_replace_settled :
    let s := Server.used settledEvents
    let fresh : StoreCall := .insertTransaction (booked 0 (some "second"))
    let again : StoreCall := .insertWithdrawalRequest (asked 0)
    (s.tables.transactions.map Transaction.status, s.tables.withdrawals.map Withdrawal.status) =
        ([.succeeded], [.completed]) ∧
      fresh.repeats s.tables = true ∧ again.repeats s.tables = true ∧
      (fresh.work.run.run ⟨s, s.tables⟩).1 = .ok () ∧ (again.work.run.run ⟨s, s.tables⟩).1 = .ok () ∧
      (s.use (.unit [fresh, again] true)).tables.transactions = [booked 0 (some "second")] ∧
      (s.use (.unit [fresh, again] true)).tables.withdrawals = [asked 0] := by
  decide +kernel

-- The second wallet has the first one's number. Of the transactions one has a number of its own and
-- one the key of the first.
theorem inserts_spare_settled :
    let s := Server.used settledEvents
    let taken : StoreCall := .insertWallet { opened 0 with ownerId := 2 }
    let next : StoreCall := .insertTransaction (booked 1 none)
    let replay : StoreCall := .insertTransaction (booked 0 (some "first"))
    (∃ constraint, taken.work.run.run ⟨s, s.tables⟩ =
        (.error (.refused (.uniqueViolation constraint)), ⟨s, s.tables⟩)) ∧
      s.tables.Extends (next.work.run.run ⟨s, s.tables⟩).2.staged ∧
      s.tables.transactions.map Transaction.issued <+:
        (s.use (.unit [taken, next, replay] true)).tables.transactions.map Transaction.issued := by
  intro s taken next replay
  obtain ⟨refuses, grows, -, spares⟩ := inserts_spare ⟨s, s.tables⟩
  refine ⟨?_, ?_, ?_⟩
  · exact refuses taken (by decide +kernel) (by decide +kernel) (by decide +kernel)
  · exact grows next (by decide +kernel) (by decide +kernel)
  · have spared : ∀ c ∈ [taken, next, replay], c.overwrites s.tables = false := by decide +kernel
    exact (spares [.unit [taken, next, replay] true]).transactions fun r mem => spared _ mem

end StoreCall
end Treasury
