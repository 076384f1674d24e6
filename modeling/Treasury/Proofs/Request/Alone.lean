import Treasury.Proofs.Service.Ensures
import Treasury.Proofs.Request.Basic

namespace Treasury

open Transactions

theorem Books.wallets_kept {id : TransactionId} (books : Books id t legs t')
    (outside : ∀ leg ∈ legs, leg.wallet? = none) : t'.wallets = t.wallets := by
  induction books with
  | nil => rfl
  | cons posts _ ih =>
    rw [ih fun leg mem => outside leg (List.mem_cons_of_mem _ mem)]
    cases posts with
    | counterparty => rfl
    | wallet m made =>
      have none := outside _ List.mem_cons_self
      cases made.copy.symm.trans none

-- The rows with one payment more: its record is pending, its wallet debited by the amount and the
-- fee, and its entries are those of a reservation.
inductive Tables.Reserved (t : Tables) (provider : String) (r : Transaction) : Tables → Prop where
  | booked (pending : r.status = .pending)
      (fresh : ∀ k, r.idempotencyKey = some k → t.transactionOf? k = none)
      (stored : t.wallet? r.walletId = some w) (sum : r.total = .ok total)
      (taken : w.balance.sub total = .ok balance) (mine : ∀ e ∈ es, e.transactionId = r.id)
      (lines : es.map Entry.line = reservationLines r provider total) :
      Reserved t provider r
        { t.withBalance r.walletId balance moment with
          transactions := Rows.put Transaction.id r t.transactions, entries := t.entries ++ es }

namespace Tables.Reserved

variable {t t' : Tables} {r : Transaction}

theorem of_created (created : Created g t g' r (reservationLegs r w provider total) t')
    (pending : r.status = .pending) (stored : t.wallet? r.walletId = some w)
    (sum : r.total = .ok total) : t.Reserved provider r t' := by
  have number : w.id = r.walletId := Rows.key_of_find? stored
  have currency := created.opening.held
  rw [stored] at currency
  have currency : w.currency = r.currency := Option.some.inj currency
  obtain ⟨es, entries, mine, lines⟩ := created.books.entries
  rw [reservationLegs_lines number currency] at lines
  rw [created.frame, entries]
  cases created.books with
  | cons debited rest =>
    have kept := rest.wallets_kept (by unfold feeLegs; split <;> simp [Leg.wallet?])
    cases debited with
    | wallet m made =>
      obtain ⟨_, _, _, taken, shape⟩ := Ledger.Movement.debit_parts (Option.some.inj made)
      have there : m.wallet.id = r.walletId := by rw [shape, ← number]
      rw [there] at kept
      rw [show t'.wallets = (t.withBalance r.walletId m.balance _).wallets from kept]
      exact .booked pending created.free stored sum taken mine lines

theorem pending (reserved : t.Reserved provider r t') : r.status = .pending := by
  cases reserved
  assumption

theorem fresh (reserved : t.Reserved provider r t') (keyed : r.idempotencyKey = some k) :
    t.transactionOf? k = none := by
  cases reserved with
  | booked _ fresh => exact fresh k keyed

theorem stored (reserved : t.Reserved provider r t') : t'.transaction? r.id = some r := by
  cases reserved with
  | booked => simp [Tables.transaction?, Rows.find?_put]

theorem keyed (reserved : t.Reserved provider r t') (keyed : r.idempotencyKey = some k) :
    t'.transactionOf? k = some r := by
  cases reserved with
  | booked _ fresh => exact transactionOf?_withTransaction keyed (fresh k keyed)

theorem heldIn (reserved : t.Reserved provider r t') (id : WalletId) (currency : Currency) :
    t'.HeldIn id currency ↔ t.HeldIn id currency := by
  cases reserved with
  | @booked w total balance es moment =>
    have faces : (t.withBalance r.walletId balance moment).wallets.map Wallet.face =
        t.wallets.map Wallet.face := Rows.map_amend fun _ _ => rfl
    exact Tables.heldIn_of_faces faces

end Tables.Reserved

-- What a request that began over `s` answers, the rows in the end and the calls it made.
inductive Request.Ran (q : Request) (providers : Registry) (s : Server) :
    Except (Halt TransactionError) Transaction → Tables → List (Call × Tables) → Prop where
  | refused (why : s.Calm → q.Blocked providers s.clock s.tables h) :
      Ran q providers s (.error h) s.tables []
  | replayed (keyed : q.key = some k) (stored : s.tables.transactionOf? k = some r)
      (accepts : q.Accepts r) : Ran q providers s (.ok r) s.tables []
  | booked (inside : q.isExternal = false)
      (fresh : ∀ k, q.key = some k → s.tables.transactionOf? k = none) :
      Ran q providers s (.ok r) t []
  | asked (outside : q.isExternal = true) (clear : ∀ now, q.Clear providers now s.tables)
      (key : r.idempotencyKey = q.key) (alike : r.purpose = q.purpose)
      (reserved : s.tables.Reserved provider r t)
      (undecided : ∀ h, result = .error h → t' = t) :
      Ran q providers s result t' [(.order provider r.id order, t)]

-- A payment of a request that began over `s` is written down and reserved.
structure Request.Lodged (q : Request) (providers : Registry) (s : Server) (provider : String)
    (r : Transaction) (t : Tables) : Prop where
  outside : q.isExternal = true
  clear : ∀ now, q.Clear providers now s.tables
  key : r.idempotencyKey = q.key
  names : q.Names r
  reserved : s.tables.Reserved provider r t
  created : ∃ g legs, Created s.gauge s.tables g r legs t

-- What such a request comes to in full: with what was written down and booked, and how a payment
-- was decided.
inductive Request.Went (q : Request) (providers : Registry) (s : Server) :
    Except (Halt TransactionError) Transaction → Tables → List (Call × Tables) → Prop where
  | refused (why : s.Calm → q.Blocked providers s.clock s.tables h) :
      Went q providers s (.error h) s.tables []
  | replayed (keyed : q.key = some k) (stored : s.tables.transactionOf? k = some r)
      (accepts : q.Accepts r) : Went q providers s (.ok r) s.tables []
  | booked (inside : q.isExternal = false)
      (fresh : ∀ k, q.key = some k → s.tables.transactionOf? k = none) (names : q.Names r)
      (created : Created g s.tables g' r legs t) : Went q providers s (.ok r) t []
  | undecided (lodged : q.Lodged providers s provider r t) :
      Went q providers s (.error h) t [(.order provider r.id order, t)]
  | settled (lodged : q.Lodged providers s provider r t)
      (settles : Settles ⟨r.id, .pending, provider, outcome⟩ t (.settled r') p) :
      Went q providers s (.ok r') (p.getD t) [(.order provider r.id order, t)]

-- What is left of a request that began over `s`, where it has come to `s'`.
def Request.Rest (q : Request) (providers : Registry) (s : Server)
    (task : Task TransactionError Transaction) (s' : Server) : Prop :=
  task.Alone s' (fun h s'' heard => q.Went providers s (.error h) s''.tables (heard.map Exchange.asked))
    fun r s'' heard => q.Went providers s (.ok r) s''.tables (heard.map Exchange.asked)

namespace Request

variable {q : Request} {providers : Registry} {s s' : Server} {h : Halt TransactionError}

theorem Went.ran (went : q.Went providers s result t calls) : q.Ran providers s result t calls := by
  cases went with
  | refused why => exact .refused why
  | replayed keyed stored accepts => exact .replayed keyed stored accepts
  | booked inside fresh => exact .booked inside fresh
  | undecided lodged =>
    exact .asked lodged.outside lodged.clear lodged.key lodged.names.purpose lodged.reserved fun _ _ => rfl
  | settled lodged =>
    exact .asked lodged.outside lodged.clear lodged.key lodged.names.purpose lodged.reserved
      (by rintro _ ⟨⟩)

theorem Went.unclear (still : s.Still s')
    (unclear : s.Calm → q.Clear providers s.clock s.tables → q.Converts s.clock s.tables → False) :
    q.Went providers s (.error h) s'.tables [] := by
  rw [still.tables]
  exact .refused fun calm _ _ _ _ clear converts => (unclear calm clear converts).elim

theorem Blocked.fresh (fresh : ∀ k, q.key = some k → s.tables.transactionOf? k = none) :
    q.Blocked providers s.clock s.tables h := by
  intro k r keyed stored
  cases (fresh k keyed).symm.trans stored

theorem Blocked.of_conflicts {t : Tables} (strict : ∀ r, q.Accepts r → r.purpose = q.purpose)
    (conflicts : Conflicts q.key q.purpose t h) : q.Blocked providers now t h := by
  intro k r keyed stored _ _
  obtain ⟨other, rfl⟩ := conflicts k r keyed stored
  exact ⟨fun accepts => other (strict r accepts), rfl⟩

-- A unit that honours the key of a request and books what it asks for.
theorem Rest.books {task : Task TransactionError Transaction}
    {opens : Tables → Transaction → List Leg → Prop} (honest : s'.Honest)
    (inside : q.isExternal = false) (strict : ∀ r, q.Accepts r → r.purpose = q.purpose)
    (names : ∀ t r legs, opens t r legs → r.purpose = q.purpose → q.Names r) (still : s.Still s')
    (acts : task.Acts (fun _ t h => Conflicts q.key q.purpose t h)
      (Honours q.key q.purpose opens)) : q.Rest providers s task s' := by
  refine .acts acts honest (fun s₁ r p _ honours tables => ?_) (fun s₁ h kept why => ?_)
  · rw [still.tables] at honours tables
    rw [tables]
    cases honours with
    | replayed keyed stored alike => exact .replayed keyed stored (accepts_of_purpose alike)
    | created created keyed alike opened =>
      exact .booked inside (fun k same => created.free k (keyed.trans same))
        (names _ _ _ opened alike) created
  · rw [kept.tables, still.tables]
    rw [still.tables] at why
    exact .refused fun calm => .of_conflicts strict (why (still.calm calm))

theorem Rest.check {tried : Except TransactionError β} {f : β → Task TransactionError Transaction}
    (still : s.Still s') (passes : q.Clear providers s.clock s.tables → ∃ b, tried = .ok b)
    (rest : ∀ b, tried = .ok b → q.Rest providers s (f b) s') :
    q.Rest providers s (Task.checked tried >>= f) s' := by
  refine .bind (.checked rest (fun e failed => .unclear still fun _ clear _ => ?_))
  obtain ⟨b, passed⟩ := passes clear
  cases failed.symm.trans passed

theorem Rest.refuse (honest : s.Honest) (unclear : ¬ q.Clear providers s.clock s.tables) :
    q.Rest providers s (Task.refuse e) s :=
  Went.unclear (.refl honest) fun _ clear _ => unclear clear

theorem Rest.deposit (r : DepositRequest) (honest : s.Honest) :
    (Request.deposit r).Rest providers s (Transactions.deposit r) s := by
  refine .check (.refl honest) id fun a amount => ?_
  exact .books honest rfl (fun _ alike => alike) (fun _ _ _ => .deposit amount) (.refl honest)
    (.unit fun _ _ => depositIn_honours amount)

-- A payment is reserved, then its provider is asked, then the answer is booked. What fails last
-- leaves the reservation.
theorem Rest.execute {d : Draft} (placed : d.Placed) (key : d.idempotencyKey = q.key)
    (names : ∀ id now, q.Names (d.toTransaction id now))
    (clear : ∀ now, q.Clear providers now s.tables)
    (blocked : ∀ h, Conflicts q.key q.purpose s.tables h → q.Blocked providers s.clock s.tables h)
    (still : s.Still s') :
    q.Rest providers s (External.execute timeout d provider order) s' := by
  have purpose : d.purpose = q.purpose := (names s.gauge.supply.transaction s.clock).purpose
  have outside : q.isExternal = true := by
    rw [isExternal, ← purpose]
    exact placed.kind
  refine .bind (Task.Alone.acts (External.reserve_acts placed) still.honest
    (fun s₁ found p onward places tables => ?_) (fun s₁ h kept why => ?_))
  · rw [still.tables] at places tables
    cases places with
    | replayed keyed stored alike =>
      refine Task.Alone.report_then ?_
      change Went q providers s _ s₁.tables []
      rw [tables]
      exact .replayed (key ▸ keyed) stored (accepts_of_purpose (alike.trans purpose))
    | @reserved _ r _ _ _ _ stored shape sum created =>
      have own : r.idempotencyKey = q.key ∧ q.Names r := by
        rw [shape]
        exact ⟨key, names _ _⟩
      have pending : r.status = .pending ∧ r.walletId = d.walletId := by
        rw [shape]
        exact ⟨rfl, rfl⟩
      have reserved := Tables.Reserved.of_created created pending.1 (pending.2 ▸ stored) sum
      have lodged : q.Lodged providers s provider r s₁.tables := by
        rw [tables]
        exact ⟨outside, clear, own.1, own.2, reserved, _, _, created.mono still.issued (.refl _)⟩
      refine .bind (Task.Alone.attempt onward.honest fun s₂ reply waited => ?_)
      refine Task.Alone.settle (c := ⟨r.id, .pending, provider, reply.within timeout⟩) waited.honest
        (fun s₃ r' p settles last => ?_) (fun s₃ h kept => ?_)
      · rw [waited.tables] at settles last
        rw [last]
        exact .settled lodged settles
      · rw [kept.tables, waited.tables]
        exact .undecided lodged
  · rw [kept.tables, still.tables]
    rw [still.tables, key, purpose] at why
    exact .refused fun calm => blocked h (why (still.calm calm))

theorem Rest.charge {id : WalletId} {draft : Wallet → Draft} (honest : s.Honest)
    (placed : ∀ w, w.currency = currency → (draft w).Placed)
    (key : ∀ w, (draft w).idempotencyKey = q.key)
    (names : ∀ w, w.id = id → ∀ number now, q.Names ((draft w).toTransaction number now))
    (strict : ∀ r, q.Accepts r → r.purpose = q.purpose)
    (clear : ∀ now, q.Clear providers now s.tables ↔ s.tables.HeldIn id currency) :
    q.Rest providers s (do
      let w ← loadWallet id
      Task.checked (checkCurrency w currency)
      External.execute timeout (draft w) provider order) s := by
  refine .bind (Task.Alone.acts (loadWallet_acts id) honest (fun s₁ w p onward loaded tables => ?_)
    (fun s₁ h kept missing => ?_))
  · obtain ⟨stored, _, rfl⟩ := loaded
    have held : s.tables.HeldIn id currency ↔ w.currency = currency := Tables.heldIn_iff stored
    refine Rest.check ⟨onward, tables⟩ (fun known => ?_) fun _ same => ?_
    · exact ⟨(), if_pos (held.mp ((clear s.clock).mp known))⟩
    · have same := checkCurrency_ok same
      exact Rest.execute (placed w same) (key w) (names w (Rows.key_of_find? stored))
        (fun now => (clear now).mpr (held.mpr same)) (fun h => .of_conflicts strict) ⟨onward, tables⟩
  · refine .unclear kept fun calm known _ => ?_
    exact Tables.not_heldIn (missing calm) ((clear s.clock).mp known)

theorem Rest.payout (g : Gateway) (r : PayoutRequest) (honest : s.Honest) :
    (Request.payout r).Rest g.providers s (payOut g r) s := by
  refine .check (.refl honest) (fun clear => clear.1) fun a amount => ?_
  refine .check (.refl honest) (fun clear => clear.2.1) fun f fee => ?_
  refine .check (.refl honest) (fun clear => clear.2.2.1) fun provider configured => ?_
  refine .charge honest (fun w same => .payout r w amount fee same) (fun _ => rfl)
    (fun w number => .payout amount fee number) (fun _ alike => alike) fun now => ?_
  exact ⟨fun clear => clear.2.2.2, fun held => ⟨⟨a, amount⟩, ⟨f, fee⟩, ⟨provider, configured⟩, held⟩⟩

theorem Rest.send (g : Gateway) (r : SendRequest) (honest : s.Honest) :
    (Request.send r).Rest g.providers s (sendCrypto g r) s := by
  refine .check (.refl honest) (fun clear => clear.1) fun a amount => ?_
  refine .check (.refl honest) (fun clear => clear.2.1) fun f fee => ?_
  refine .check (.refl honest) (fun clear => clear.2.2.1) fun provider configured => ?_
  refine .charge honest (fun w same => .send r w amount fee same) (fun _ => rfl)
    (fun w number => .send amount fee number) (fun _ alike => alike) fun now => ?_
  exact ⟨fun clear => clear.2.2.2, fun held => ⟨⟨a, amount⟩, ⟨f, fee⟩, ⟨provider, configured⟩, held⟩⟩

end Request

theorem Rates.get_alone {base quote : Currency} {s : Server}
    {E : Halt RateError → Server → List Exchange → Prop}
    {Q : Decimal → Server → List Exchange → Prop} (honest : s.Honest)
    (ok : ∀ s' x, s.Still s' →
      (base ≠ quote → ∃ rate, s.tables.rate? base quote s.clock = some rate ∧ x = rate.rate) → Q x s' [])
    (error : ∀ s' h, s.Still s' →
      (s.Calm → base ≠ quote ∧ s.tables.rate? base quote s.clock = none) → E h s' []) :
    (get base quote).Alone s E Q := by
  by_cases same : base = quote
  · rw [get, if_pos same]
    exact .pure (ok s 1 (.refl honest) fun apart => absurd same apart)
  · refine .acts (get_acts same) honest (fun s' x p onward known tables => ?_) fun s' h kept missing => ?_
    · obtain ⟨rate, rfl⟩ := known
      exact ok s' x ⟨onward, tables⟩ fun _ => rate
    · exact error s' h kept fun calm => ⟨same, (missing calm).2⟩

namespace Transactions

variable {s : Server}

theorem quote_alone (r : GiftCardRequest) (honest : s.Honest) :
    (quote r).Alone s (fun _ s' heard => s.Still s' ∧ heard = []) fun q s' heard =>
      s.Still s' ∧ heard = [] ∧ q.wallet.id = r.walletId ∧ q.Priced := by
  refine .bind (Task.Alone.acts (loadOffer_acts r) honest (fun s₁ offer p onward loaded tables => ?_)
    fun s₁ h kept _ => ⟨kept, rfl⟩)
  obtain ⟨wallet, listing⟩ := offer
  obtain ⟨stored, rfl⟩ := loaded
  have still : s.Still s₁ := ⟨onward, tables⟩
  refine .bind (.exactly (fun price? _ => ?_) fun _ _ => ⟨still, rfl⟩)
  refine .bind (.found (fun price _ => ?_) fun _ => ⟨still, rfl⟩)
  refine .bind (.checked (fun senderCurrency _ => ?_) fun _ _ => ⟨still, rfl⟩)
  refine .bind (.exactly (fun senderAmount _ => ?_) fun _ _ => ⟨still, rfl⟩)
  refine .bind (.told (Rates.get_alone still.honest (fun s₂ rate kept _ => ?_)
    fun s₂ h kept _ => ⟨still.trans kept, rfl⟩))
  have still := still.trans kept
  refine .bind (.exactly (fun product _ => ?_) fun _ _ => ⟨still, rfl⟩)
  dsimp only
  split
  · exact .refuse ⟨still, rfl⟩
  · rename_i positive
    exact Task.Alone.report_then
      (.pure ⟨still.report _, rfl, Rows.key_of_find? stored, positive, product, rfl⟩)

theorem creditedRate_alone (r : TransferRequest) (honest : s.Honest) :
    (creditedRate r).Alone s
      (fun _ s' heard => s.Still s' ∧ heard = [] ∧
        (s.Calm → ¬ s.tables.Lands s.clock r.currency r.destination))
      fun known s' heard => s.Still s' ∧ heard = [] ∧ s.tables.Rated s.clock r known.1 known.2 := by
  unfold creditedRate
  cases sent : r.destination with
  | external => exact .pure ⟨.refl honest, rfl, .outside sent⟩
  | wallet id =>
    refine .bind (Task.Alone.acts (loadWallet_acts id) honest (fun s₁ w p onward loaded tables => ?_)
      fun s₁ h kept missing => ⟨kept, rfl, ?_⟩)
    · obtain ⟨stored, moment, rfl⟩ := loaded
      have still : s.Still s₁ := ⟨onward, tables⟩
      have held : s.tables.HeldIn id w.currency := (Tables.heldIn_iff stored).mpr rfl
      have clock : s₁.clock = s.clock := congrArg Gauge.clock moment
      split
      · rename_i same
        rw [same] at held ⊢
        exact .pure ⟨still, rfl, .home sent held⟩
      · rename_i apart
        refine .bind (.told (Rates.get_alone still.honest (fun s₂ x kept known => ?_)
          fun s₂ h kept missing => ⟨still.trans kept, rfl, ?_⟩))
        · obtain ⟨rate, found, rfl⟩ := known (Ne.symm apart)
          rw [still.tables, clock] at found
          exact .pure ⟨still.trans kept, rfl, .foreign sent held apart found⟩
        · rintro calm ⟨received, there, known⟩
          cases held.symm.trans there
          obtain ⟨rate, found⟩ := known apart
          obtain ⟨_, none⟩ := missing (still.calm calm)
          rw [still.tables, clock] at none
          cases none.symm.trans found
    · rintro calm ⟨received, held, _⟩
      exact Tables.not_heldIn (missing calm) held

theorem credited_alone {r : TransferRequest} (amount : checkedAmount r.amount r.currency = .ok a)
    (honest : s.Honest) :
    (credited r a).Alone s
      (fun _ s' heard => s.Still s' ∧ heard = [] ∧ (s.Calm →
        s.tables.Lands s.clock r.currency r.destination → ¬ s.tables.Converts s.clock r))
      fun c s' heard => s.Still s' ∧ heard = [] ∧ s.tables.Credits s.clock r c ∧ ¬ c.amount ≤ 0 := by
  have same := checkedAmount_same amount
  refine .bind ((creditedRate_alone r honest).mono (fun known s₁ heard rated => ?_)
    (fun h s₁ heard failed => ?_))
  · obtain ⟨still, rfl, rated⟩ := rated
    obtain ⟨currency, rate⟩ := known
    cases rate with
    | none =>
      refine .bind (.pure ?_)
      dsimp only
      rw [if_neg (checkedAmount_positive amount)]
      exact .pure ⟨still, rfl, ⟨rated, same⟩, checkedAmount_positive amount⟩
    | some x =>
      have worth (converts : s.tables.Converts s.clock r) :
          ∃ product, a.mul x = .ok product ∧ ¬ currency.round product ≤ 0 := by
        rw [same]
        cases rated with
        | foreign sent held apart known => exact converts _ _ _ sent held apart known
      refine .bind (.exactly (fun product made => .bind (.pure ?_))
        fun operation broken => ⟨still, rfl, fun _ _ converts => ?_⟩)
      · dsimp only
        split
        · rename_i low
          refine .refuse ⟨still, rfl, fun _ _ converts => ?_⟩
          obtain ⟨_, same, positive⟩ := worth converts
          cases made.symm.trans same
          exact positive low
        · rename_i positive
          exact .pure ⟨still, rfl, ⟨rated, product, same ▸ made, rfl⟩, positive⟩
      · obtain ⟨_, same, _⟩ := worth converts
        cases broken.symm.trans same
  · obtain ⟨still, rfl, unsent⟩ := failed
    exact ⟨still, rfl, fun calm lands _ => unsent calm lands⟩

end Transactions

namespace Request

variable {providers : Registry} {s s' : Server}

theorem Rest.quoted {timeout : Nat} {r : GiftCardRequest} (still : s.Still s')
    (clear : ∀ now, (Request.giftCard r).Clear providers now s.tables)
    (fresh : ∀ k, r.idempotencyKey = some k → s.tables.transactionOf? k = none) :
    (Request.giftCard r).Rest providers s (do
      let q ← quote r
      External.execute timeout (giftCardDraft r q) provider (giftCardOrder r q)) s' := by
  refine .bind ((quote_alone r still.honest).mono (fun q s₂ calls quoted => ?_)
    (fun h s₂ calls failed => ?_))
  · obtain ⟨kept, rfl, number, positive⟩ := quoted
    exact Rest.execute (.giftCard r q positive) rfl (.giftCard number) clear
      (fun h _ => .fresh fresh) (still.trans kept)
  · obtain ⟨kept, rfl⟩ := failed
    rw [kept.tables, still.tables]
    exact .refused fun _ => .fresh fresh

theorem Rest.giftCard (g : Gateway) (r : GiftCardRequest) (honest : s.Honest) :
    (Request.giftCard r).Rest g.providers s (purchaseGiftCard g r) s := by
  unfold purchaseGiftCard
  split
  · rename_i nothing
    exact .refuse honest fun clear => clear.1 nothing
  · rename_i several
    split
    · rename_i low
      exact .refuse honest fun clear => clear.2.1 low
    · rename_i priced
      refine .check (.refl honest) (fun clear => clear.2.2) fun provider configured => ?_
      have clear : ∀ now, (Request.giftCard r).Clear g.providers now s.tables :=
        fun _ => ⟨several, priced, provider, configured⟩
      cases keyed : r.idempotencyKey with
      | none => exact Rest.quoted (.refl honest) clear (by simp [keyed])
      | some k =>
        refine .bind (Task.Alone.acts (findByKey_acts k) honest (fun s₁ known p onward looked tables => ?_)
          fun s₁ h kept never => .unclear kept fun calm _ _ => never calm)
        obtain ⟨rfl, rfl⟩ := looked
        cases stored : s.tables.transactionOf? k with
        | none =>
          refine Rest.quoted ⟨onward, tables⟩ clear fun k' same => ?_
          cases keyed.symm.trans same
          exact stored
        | some known =>
          change Went _ _ _ _ s₁.tables []
          rw [tables]
          exact .replayed keyed stored trivial

theorem Rest.transfer (r : TransferRequest) (honest : s.Honest) :
    (Request.transfer r).Rest providers s (Transactions.transfer r) s := by
  refine .check (.refl honest) (fun clear => clear.1) fun a amount => ?_
  refine .check (.refl honest) (fun clear => clear.2.1) fun f fee => ?_
  split
  · rename_i same
    exact .refuse honest fun clear => clear.2.2.1 same
  · rename_i apart
    refine .bind ((credited_alone amount honest).mono (fun c s₁ calls credited => ?_)
      (fun h s₁ calls failed => ?_))
    · obtain ⟨still, rfl, credits, _⟩ := credited
      have worth : c.Of r a := checkedAmount_same amount ▸ credits.of
      exact Rest.books (q := .transfer r) still.honest rfl (fun _ alike => alike)
        (fun _ _ _ => .transfer amount fee worth) still
        (.unit fun _ _ => transferIn_honours amount fee apart worth)
    · obtain ⟨still, rfl, never⟩ := failed
      exact .unclear still fun calm clear converts => never calm clear.2.2.2 converts

theorem went (q : Request) (g : Gateway) (s : Server) (honest : s.Honest)
    (answer : {β : Type} → Question β → β) :
    q.Went g.providers s ((q.task g).run.runAlone answer s).1
      ((q.task g).run.runAlone answer s).2.tables ((q.task g).run.calls answer s) := by
  have rest : q.Rest g.providers s (q.task g) s := by
    cases q with
    | deposit r => exact .deposit r honest
    | transfer r => exact .transfer r honest
    | giftCard r => exact .giftCard g r honest
    | payout r => exact .payout g r honest
    | send r => exact .send g r honest
  have ended := Flow.Ensures.alone rest answer
  rw [← Flow.map_asked]
  rcases result : ((q.task g).run.runAlone answer s).1 with h | r
  · rwa [result] at ended
  · rwa [result] at ended

theorem ran (q : Request) (g : Gateway) (s : Server) (honest : s.Honest)
    (answer : {β : Type} → Question β → β) :
    q.Ran g.providers s ((q.task g).run.runAlone answer s).1
      ((q.task g).run.runAlone answer s).2.tables ((q.task g).run.calls answer s) :=
  (q.went g s honest answer).ran

-- The request has the server for itself, ends so and leaves everything as it was: it changes no
-- row and calls nobody.
def Merely (q : Request) (g : Gateway) (s : Server)
    (result : Except (Halt TransactionError) Transaction) : Prop :=
  ∀ answer : {β : Type} → Question β → β, ((q.task g).run.runAlone answer s).1 = result ∧
    ((q.task g).run.runAlone answer s).2.tables = s.tables ∧ (q.task g).run.calls answer s = []

-- On a calm server, a clear request under a known key is decided by the record that has the key.
theorem Ran.keyed {q : Request} {s : Server} (ran : q.Ran providers s result t calls) (calm : s.Calm)
    (key : q.key = some k) (stored : s.tables.transactionOf? k = some r)
    (clear : q.Clear providers s.clock s.tables) (converts : q.Converts s.clock s.tables) :
    t = s.tables ∧ calls = [] ∧ (q.Accepts r ∧ result = .ok r ∨
      ¬ q.Accepts r ∧ result = .error (.refused (.idempotencyConflict k))) := by
  cases ran with
  | refused why =>
    obtain ⟨other, rfl⟩ := why calm k r key stored clear converts
    exact ⟨rfl, rfl, .inr ⟨other, rfl⟩⟩
  | replayed key' stored' accepts =>
    cases key.symm.trans key'
    cases stored.symm.trans stored'
    exact ⟨rfl, rfl, .inl ⟨accepts, rfl⟩⟩
  | booked _ fresh => cases (fresh k key).symm.trans stored
  | asked _ _ own _ reserved => cases (reserved.fresh (own.trans key)).symm.trans stored

theorem merely_replays {q : Request} {g : Gateway} (honest : s.Honest) (calm : s.Calm)
    (key : q.key = some k) (stored : s.tables.transactionOf? k = some r) (accepts : q.Accepts r)
    (clear : q.Clear g.providers s.clock s.tables) (converts : q.Converts s.clock s.tables) :
    q.Merely g s (.ok r) := by
  intro answer
  obtain ⟨tables, calls, ⟨_, result⟩ | ⟨other, _⟩⟩ :=
    (q.ran g s honest answer).keyed calm key stored clear converts
  · exact ⟨result, tables, calls⟩
  · exact absurd accepts other

theorem merely_conflicts {q : Request} {g : Gateway} (honest : s.Honest) (calm : s.Calm)
    (key : q.key = some k) (stored : s.tables.transactionOf? k = some r) (other : ¬ q.Accepts r)
    (clear : q.Clear g.providers s.clock s.tables) (converts : q.Converts s.clock s.tables) :
    q.Merely g s (.error (.refused (.idempotencyConflict k))) := by
  intro answer
  obtain ⟨tables, calls, ⟨accepts, _⟩ | ⟨_, result⟩⟩ :=
    (q.ran g s honest answer).keyed calm key stored clear converts
  · exact absurd accepts other
  · exact ⟨result, tables, calls⟩

end Request
end Treasury
