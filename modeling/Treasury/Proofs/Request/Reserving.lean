import Treasury.Proofs.Request.Alone

namespace Treasury

namespace Request

variable {q : Request} {s : Server}

-- Money is reserved before a provider is asked, and an order is given for a reservation only.
structure ReservesFirst (q : Request) (s : Server) (result : Except (Halt TransactionError) Transaction)
    (t : Tables) (calls : List (Call × Tables)) : Prop where
  once : calls.length ≤ 1
  reserved : ∀ call t', (call, t') ∈ calls → ∃ provider r order,
    call = .order provider r.id order ∧ r.idempotencyKey = q.key ∧ r.purpose = q.purpose ∧
      t'.transaction? r.id = some r ∧ r.status = .pending ∧ s.tables.Reserved provider r t'
  untouched : calls = [] → t = s.tables ∧
    ∀ r, result = .ok r → ∃ k, q.key = some k ∧ s.tables.transactionOf? k = some r
  undecided : ∀ h call t', result = .error h → (call, t') ∈ calls → t = t'

theorem Ran.reservesFirst (ran : q.Ran providers s result t calls) (outside : q.isExternal = true) :
    q.ReservesFirst s result t calls := by
  cases ran with
  | refused =>
    exact ⟨Nat.zero_le _, by rintro _ _ ⟨⟩, fun _ => ⟨rfl, by rintro _ ⟨⟩⟩, by rintro _ _ _ _ ⟨⟩⟩
  | replayed keyed stored =>
    refine ⟨Nat.zero_le _, by rintro _ _ ⟨⟩, fun _ => ⟨rfl, ?_⟩, by rintro _ _ _ _ ⟨⟩⟩
    rintro _ ⟨⟩
    exact ⟨_, keyed, stored⟩
  | booked inside => cases outside.symm.trans inside
  | asked _ _ key alike reserved undecided =>
    refine ⟨Nat.le_refl _, fun call t' mem => ?_, by rintro ⟨⟩, fun h call t' failed mem => ?_⟩
    · cases List.mem_singleton.mp mem
      exact ⟨_, _, _, rfl, key, alike, reserved.stored, reserved.pending, reserved⟩
    · cases List.mem_singleton.mp mem
      exact undecided h failed

-- Whatever fails on the way and whatever the provider says, a payment is reserved before its
-- provider is asked, and a payment that fails afterwards is still reserved.
theorem reserves_first (q : Request) (g : Transactions.Gateway) (outside : q.isExternal = true)
    (s : Server) (honest : s.Honest) (answer : {β : Type} → Question β → β) :
    q.ReservesFirst s ((q.task g).run.runAlone answer s).1
      ((q.task g).run.runAlone answer s).2.tables ((q.task g).run.calls answer s) :=
  (q.ran g s honest answer).reservesFirst outside

-- A payment of 12.00 to a bank, and a server whose second commit from now on fails.
def bankPayout : Request :=
  .payout ⟨some "k", Supply.wallet ⟨0⟩, .ngn, .ofCents 1200 (by decide), .ofCents 75 (by decide),
    "058", "1", "A", ""⟩

def bankGateway : Transactions.Gateway := ⟨⟨none, some "bank", none⟩, 1000⟩

def cutServer : Server :=
  { (World.run World.depositEvents).server with
    faults := [⟨.commit, 1, .refuse (.unavailable "commit failed")⟩] }

theorem cutServer_honest : cutServer.Honest := by
  intro f waiting
  cases List.mem_singleton.mp waiting
  exact ⟨_, rfl⟩

theorem reserves_first_cut :
    ((bankPayout.task bankGateway).run.calls World.silence cutServer).length = 1 ∧
      (∃ h, ((bankPayout.task bankGateway).run.runAlone World.silence cutServer).1 = .error h) ∧
      bankPayout.ReservesFirst cutServer
        ((bankPayout.task bankGateway).run.runAlone World.silence cutServer).1
        ((bankPayout.task bankGateway).run.runAlone World.silence cutServer).2.tables
        ((bankPayout.task bankGateway).run.calls World.silence cutServer) :=
  ⟨rfl, ⟨_, rfl⟩, reserves_first bankPayout bankGateway rfl cutServer cutServer_honest World.silence⟩

-- A request that failed has left a reservation, and is answered with it when it comes again under
-- its key, without another order.
def LeavesReserved (q : Request) (g : Transactions.Gateway) (s : Server) (t : Tables)
    (calls : List (Call × Tables)) : Prop :=
  q.isExternal = true ∧ ∃ provider r order, calls = [(.order provider r.id order, t)] ∧
    s.tables.Reserved provider r t ∧
    ∀ k s', q.key = some k → s'.Honest → s'.Calm → s'.tables = t → q.Merely g s' (.ok r)

-- What fails has changed nothing and called nobody, or has left a reservation.
theorem refused_keeps (q : Request) (g : Transactions.Gateway) (s : Server) (honest : s.Honest)
    (answer : {β : Type} → Question β → β)
    (refused : ((q.task g).run.runAlone answer s).1 = .error h) :
    (((q.task g).run.runAlone answer s).2.tables = s.tables ∧ (q.task g).run.calls answer s = []) ∨
      q.LeavesReserved g s ((q.task g).run.runAlone answer s).2.tables
        ((q.task g).run.calls answer s) := by
  have ran := q.ran g s honest answer
  rw [refused] at ran
  generalize ((q.task g).run.runAlone answer s).2.tables = t, (q.task g).run.calls answer s = calls at ran
  cases ran with
  | refused => exact .inl ⟨rfl, rfl⟩
  | @asked provider r _ _ _ order outside clear key alike reserved undecided =>
    cases undecided h rfl
    refine .inr ⟨outside, provider, r, order, rfl, reserved, fun k s' keyed honest calm same => ?_⟩
    have stored := reserved.keyed (key.trans keyed)
    rw [← same] at stored
    refine merely_replays honest calm keyed stored (accepts_of_purpose alike) ?_
      (converts_of_external outside)
    refine (clear s'.clock).mono (fun id currency held => ?_) (fun inside => ?_)
    · rw [same]
      exact (reserved.heldIn id currency).mpr held
    · cases outside.symm.trans inside

theorem refused_keeps_cut :
    ∃ h, ((bankPayout.task bankGateway).run.runAlone World.silence cutServer).1 = .error h ∧
      bankPayout.LeavesReserved bankGateway cutServer
        ((bankPayout.task bankGateway).run.runAlone World.silence cutServer).2.tables
        ((bankPayout.task bankGateway).run.calls World.silence cutServer) :=
  ⟨_, rfl, (refused_keeps bankPayout bankGateway cutServer cutServer_honest World.silence rfl).resolve_left
    fun kept => nomatch kept.2⟩

-- The category of a failure does not tell which of the two it is: the store failed, which may be
-- tried again, but the order had gone out.
theorem retryable_after_order :
    ¬ ∀ (q : Request) (g : Transactions.Gateway) (s : Server)
      (answer : {β : Type} → Question β → β) (e : TransactionError), s.Honest →
      ((q.task g).run.runAlone answer s).1 = .error (.refused e) → e.category.isRetryable = true →
      ((q.task g).run.runAlone answer s).2.tables = s.tables ∧ (q.task g).run.calls answer s = [] := by
  intro idle
  have called := (idle bankPayout bankGateway cutServer World.silence _ cutServer_honest rfl rfl).2
  cases called

end Request
end Treasury
