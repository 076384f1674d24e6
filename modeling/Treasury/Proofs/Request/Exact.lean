import Treasury.Proofs.Request.Reserving
import Treasury.Proofs.Settlement.Cost

namespace Treasury

open Transactions
open Decimal (Fits Sums)

def Transaction.gain (r : Transaction) : ℚ :=
  match r.kind with
  | .deposit | .referralPayout => r.amount.value
  | _ => -(r.amount.value + r.fee.value)

theorem Transaction.gain_external {r : Transaction} (external : r.kind.isExternal = true) :
    r.gain = -(r.amount.value + r.fee.value) := by
  cases kind : r.kind with
  | giftCardPurchase | fiatPayout | cryptoSend => rw [gain, kind]
  | deposit | transfer | referralPayout =>
    rw [kind] at external
    cases external

namespace Opening

variable {t : Tables} {r : Transaction} {legs : List Leg} {id : WalletId}

theorem net_own (opening : Opening t r legs) (exact : Fits (r.amount.value + r.fee.value)) :
    net r.walletId (legs.map Leg.line) = r.gain := by
  cases opening with
  | @deposit w a _ _ _ request _ _ _ shape =>
    subst shape
    change net w.id _ = a.value
    rw [net, amountsOn_deposit, if_pos rfl]
    simp
  | @payout w _ _ _ request _ shape =>
    subst shape
    change net w.id _ = request.amount.value
    rw [net, amountsOn_payout, if_pos rfl]
    simp
  | @transfer w a f _ _ total _ request c farEnd apart stored _ far _ _ shape sum =>
    have number : w.id = request.sourceWalletId := Rows.key_of_find? stored
    have paid := r.total_exact exact sum
    subst shape
    change net w.id _ = -(a.value + f.value)
    rw [net, amountsOn_transfer, if_pos rfl, if_neg (number ▸ far.apart apart), List.append_nil,
      List.map_singleton, List.sum_singleton, Decimal.value_neg, paid]
    rfl
  | @reservation w _ _ total _ d placed provider stored _ shape sum =>
    have number : w.id = r.walletId := by
      rw [shape]
      exact Rows.key_of_find? stored
    have external : r.kind.isExternal = true := by
      rw [shape]
      exact placed.kind
    rw [r.gain_external external, ← r.total_exact exact sum, net, amountsOn_reservation, if_pos number,
      List.map_singleton, List.sum_singleton, Decimal.value_neg]

theorem net_credited (opening : Opening t r legs) (credited : r.credited? = some (id, a)) :
    (∃ w, t.wallet? id = some w) ∧ net id (legs.map Leg.line) = a.value := by
  cases opening with
  | deposit _ _ _ _ shape =>
    subst shape
    cases credited
  | payout _ _ shape =>
    subst shape
    cases credited
  | reservation d placed _ _ _ shape =>
    subst shape
    cases placed <;> cases credited
  | @transfer w _ f _ _ total _ request c farEnd apart stored _ far _ _ shape =>
    have number : w.id = request.sourceWalletId := Rows.key_of_find? stored
    subst shape
    cases sent : request.destination with
    | external =>
      simp [Transaction.credited?, Draft.toTransaction, transferDraft, sent] at credited
    | wallet destination =>
      simp only [Transaction.credited?, Draft.toTransaction, transferDraft, sent, Option.some.injEq,
        Prod.mk.injEq] at credited
      obtain ⟨rfl, rfl⟩ := credited
      rw [sent] at far apart
      cases farEnd with
      | account => exact far.elim
      | wallet d =>
        have number' : d.id = destination := Rows.key_of_find? far.1
        have landed : (FarEnd.wallet d).wallet? = some destination := congrArg some number'
        have other : w.id ≠ destination := fun same => apart (by rw [← same, number])
        refine ⟨⟨d, far.1⟩, ?_⟩
        rw [net, amountsOn_transfer, if_neg other, if_pos landed]
        simp

end Opening

-- What booking a transaction does to the rows: its own wallet and the one that it credits move by
-- the amounts of the record, its entries add up to nothing, and a wallet without an entry is left
-- as it was.
structure Tables.Moves (t : Tables) (x : Transaction) (t' : Tables) : Prop where
  own : t.Gains x.walletId x.gain t'
  credited : ∀ id a, x.credited? = some (id, a) → t.Gains id a.value t'
  booked : ∃ es, t'.entries = t.entries ++ es ∧ (∀ e ∈ es, e.transactionId = x.id) ∧
    Sums 0 (es.map (·.settlementAmount)) 0 ∧
    ∀ id, (∀ e ∈ es, e.account ≠ .wallet id) → t'.wallet? id = t.wallet? id

theorem Created.moves {r : Transaction} (created : Created g t g' r legs t')
    (exact : Fits (r.amount.value + r.fee.value)) : t.Moves r t' := by
  have opening := created.opening
  refine ⟨?_, fun id a credited => ?_, ?_⟩
  · obtain ⟨w, stored, _⟩ := Option.map_eq_some_iff.mp opening.held
    rw [← opening.net_own exact]
    exact created.books.gains stored (opening.once _)
  · obtain ⟨⟨w, stored⟩, amount⟩ := opening.net_credited credited
    rw [← amount]
    exact created.books.gains stored (opening.once id)
  · obtain ⟨es, appended, mine, lines⟩ := created.books.entries
    have sums := (Standing.opened opening created.books).sums exact
    rw [← lines, List.map_map] at sums
    refine ⟨es, appended, mine, sums, fun id silent => created.books.wallet?_other fun leg mem on => ?_⟩
    have there : leg.line ∈ es.map Entry.line := lines ▸ List.mem_map_of_mem mem
    obtain ⟨e, mem, same⟩ := List.mem_map.mp there
    exact silent e mem (by rw [← on, ← same]; rfl)

-- Settling gives back what was reserved beyond the cost, or takes what it is short of.
theorem Settles.gains {r : Transaction} {first : List Leg} (created : Created g t₀ g' r first t)
    (outside : r.kind.isExternal = true) (pending : r.status = .pending)
    (stored : t.transaction? r.id = some r)
    (settles : Settles ⟨r.id, .pending, provider, outcome⟩ t (.settled r') p) :
    r.Kin r' ∧ r'.id = r.id ∧ (r'.Exact → ∃ cost, r'.Costs cost ∧
      t.Gains r.walletId (r.amount.value + r.fee.value - cost) (p.getD t)) := by
  cases settles with
  | stale there moved =>
    cases stored.symm.trans there
    exact absurd pending moved
  | touched _ _ again => cases outcome <;> cases again
  | @decided _ legs noted t' moment there _ moves resolves books =>
    cases stored.symm.trans there
    have opening := created.opening
    have faces := Tables.currency_of_faces created.books.faces r.walletId
    have held : (t.wallet? r.walletId).map (·.currency) = some r.currency := faces.trans opening.held
    obtain ⟨w, there, _⟩ := Option.map_eq_some_iff.mp held
    refine ⟨Transaction.Decided.kin r ⟨r.id, .pending, provider, outcome⟩ noted r.updatedAt, rfl,
      fun exact => ?_⟩
    have standing := (Standing.opened opening created.books).decided (by rw [pending]; exact moves) held
      resolves r.updatedAt
    have costs := standing.costs (fun s kept => ?_) exact outside
    · refine ⟨_, costs, ?_⟩
      have rest : r.amount.value + r.fee.value -
          -net r.walletId (first.map Leg.line ++ legs.map Leg.line) = net r.walletId (legs.map Leg.line) := by
        rw [net_append, opening.net_own exact.total, r.gain_external outside]
        ring
      change Tables.Gains t r.walletId (r.amount.value + r.fee.value - -net r.walletId _) t'
      rw [rest]
      exact books.gains there (resolves.once _)
    · cases Details.settlement?_settle kept
      exact resolves.explains

-- What a request that began over the rows `t` answers, and the rows in the end.
inductive Request.Exactly (q : Request) (t : Tables) :
    Except (Halt TransactionError) Transaction → Tables → Prop where
  | refused : Exactly q t (.error h) t
  | replayed (keyed : q.key = some k) (stored : t.transactionOf? k = some x) : Exactly q t (.ok x) t
  | booked (inside : q.isExternal = false) (names : q.Names x)
      (moves : Fits (x.amount.value + x.fee.value) → t.Moves x t') : Exactly q t (.ok x) t'
  | undecided (outside : q.isExternal = true) (names : q.Names x) (pending : x.status = .pending)
      (moves : Fits (x.amount.value + x.fee.value) → t.Moves x t') : Exactly q t (.error h) t'
  | settled (outside : q.isExternal = true) (names : q.Names x)
      (moves : Fits (x.amount.value + x.fee.value) → t.Moves x t₁) (kin : x.Kin x') (same : x'.id = x.id)
      (settles : x'.Exact → ∃ cost, x'.Costs cost ∧
        t₁.Gains x.walletId (x.amount.value + x.fee.value - cost) t') : Exactly q t (.ok x') t'

namespace Request

theorem Went.exactly {q : Request} {s : Server} (went : q.Went providers s result t calls) :
    q.Exactly s.tables result t := by
  cases went with
  | refused => exact .refused
  | replayed keyed stored => exact .replayed keyed stored
  | booked inside _ names created => exact .booked inside names created.moves
  | undecided lodged =>
    obtain ⟨_, _, created⟩ := lodged.created
    exact .undecided lodged.outside lodged.names lodged.reserved.pending created.moves
  | settled lodged settles =>
    obtain ⟨_, _, created⟩ := lodged.created
    have external := lodged.outside
    rw [isExternal, ← lodged.names.purpose] at external
    obtain ⟨kin, same, gains⟩ := settles.gains created external lodged.reserved.pending
      lodged.reserved.stored
    exact .settled lodged.outside lodged.names created.moves kin same gains

-- Money is booked to the last digit, wherever the sums fit, or the request is refused and nothing
-- is booked. Only a payment whose answer could not be booked fails with its reservation made.
theorem books_exactly (q : Request) (g : Gateway) (s : Server) (honest : s.Honest)
    (answer : {β : Type} → Question β → β) :
    q.Exactly s.tables ((q.task g).run.runAlone answer s).1
      ((q.task g).run.runAlone answer s).2.tables :=
  (q.went g s honest answer).exactly

-- 12.75 of the 25.00 in the wallet are reserved, and nothing more is known of the payment.
theorem books_exactly_payout :
    let ended := (bankPayout.task bankGateway).run.runAlone World.silence
      (World.run World.depositEvents).server
    ended.2.tables.wallets.map (·.balance) = [.ofCents 1225 (by decide)] ∧
      bankPayout.Exactly (World.run World.depositEvents).server.tables ended.1 ended.2.tables :=
  ⟨rfl, books_exactly bankPayout bankGateway (World.run World.depositEvents).server
    (World.run_sound World.depositEvents).honest World.silence⟩

-- The greatest amount that there is, and a wallet that receives it.
def vault : Decimal :=
  { Decimal.zero with magnitude := 79228162514264337593543950335, magnitude_lt := by decide }

def vaultEvents : List Event :=
  [.begin (.openWallet 7 .ngn .personal), .advance 0,
    .begin (.deposit ⟨none, Supply.wallet ⟨0⟩, .ngn, vault, "bank", ""⟩), .advance 1]

-- One cent more is answered with a record of one cent, and the balance stays what it was.
theorem deposit_lost :
    ¬ ∀ (events : List Event) (r : DepositRequest) (x : Transaction) (before after : Decimal),
      let ended := (Transactions.deposit r).run.runAlone World.silence (World.run events).server
      ended.1 = .ok x →
      ((World.run events).server.tables.wallet? r.walletId).map (·.balance) = some before →
      (ended.2.tables.wallet? r.walletId).map (·.balance) = some after →
      after.value = before.value + r.amount.value := by
  intro exact
  have gained := exact vaultEvents ⟨none, Supply.wallet ⟨0⟩, .ngn, .ofCents 1 (by decide), "bank", ""⟩
    _ vault vault rfl (by decide +kernel) (by decide +kernel)
  rw [left_eq_add, ← Decimal.isZero_iff_value] at gained
  cases gained

end Request
end Treasury
