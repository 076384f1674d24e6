import Treasury.Proofs.Ledger.Movement
import Treasury.Proofs.Settlement.Records

namespace Treasury

def Tables.status? (t : Tables) (id : WalletId) : Option WalletStatus :=
  (t.wallet? id).map (·.status)

def Leg.isRefund : Leg → Bool
  | .refund _ _ _ => true
  | _ => false

namespace Leg.Makes

variable {leg : Leg} {m : Ledger.Movement}

theorem active (made : leg.Makes m) (negative : m.amount < 0) : m.wallet.status = .active := by
  have credited {w : Wallet} {amount settlement : Decimal}
      (made : Ledger.Movement.refund w amount settlement = .ok m) : False := by
    obtain ⟨positive, _, shape⟩ := Ledger.Movement.refund_parts made
    rw [shape] at negative
    exact lt_asymm (Decimal.lt_iff_value.mp (Decimal.not_le_iff.mp positive))
      (Decimal.lt_iff_value.mp negative)
  cases leg with
  | debit w amount settlement =>
    obtain ⟨_, active, _, _, shape⟩ := Ledger.Movement.debit_parts (Option.some.inj made)
    rw [shape]
    simpa [Wallet.canDebit] using active
  | refund w amount settlement => exact (credited (Option.some.inj made)).elim
  | credit w amount settlement =>
    exact (credited (Ledger.Movement.credit_parts (Option.some.inj made)).2).elim
  | counterparty => cases made

theorem refunds (made : leg.Makes m) (closed : m.wallet.status = .closed) :
    leg.isRefund = true ∧ 0 < m.amount := by
  cases leg with
  | debit w amount settlement =>
    obtain ⟨_, active, _, _, shape⟩ := Ledger.Movement.debit_parts (Option.some.inj made)
    rw [shape] at closed
    rw [Wallet.canDebit, closed] at active
    cases active
  | refund w amount settlement =>
    obtain ⟨positive, _, shape⟩ := Ledger.Movement.refund_parts (Option.some.inj made)
    rw [shape]
    exact ⟨rfl, Decimal.not_le_iff.mp positive⟩
  | credit w amount settlement =>
    obtain ⟨open_, refunded⟩ := Ledger.Movement.credit_parts (Option.some.inj made)
    obtain ⟨_, _, shape⟩ := Ledger.Movement.refund_parts refunded
    rw [shape] at closed
    rw [Wallet.canCredit, closed] at open_
    cases open_
  | counterparty => cases made

end Leg.Makes

theorem Posts.status? {id : WalletId} (posts : Posts number t leg t') :
    t'.status? id = t.status? id := by
  cases posts with
  | counterparty => rfl
  | wallet m => exact Rows.map_find?_amend (by intros; rfl) (by intros; rfl) id

namespace Books

variable {t t' : Tables} {legs : List Leg} {leg : Leg} {number : TransactionId} {id : WalletId}

theorem status? (books : Books number t legs t') : t'.status? id = t.status? id := by
  induction books with
  | nil => rfl
  | cons posts _ ih => exact ih.trans posts.status?

theorem moved (books : Books number t legs t') (mem : leg ∈ legs) (on : leg.line.account = .wallet id) :
    ∃ m, leg.Makes m ∧ leg.line.amount = m.amount ∧ t.status? id = some m.wallet.status := by
  induction books with
  | nil => cases mem
  | cons posts _ ih =>
    cases mem with
    | head =>
      cases posts with
      | counterparty outside =>
        cases on
        cases outside
      | wallet m made stored =>
        rw [made.line] at on
        cases on
        refine ⟨m, made, by rw [made.line], ?_⟩
        rw [Tables.status?, stored, Option.map_some]
    | tail _ mem =>
      obtain ⟨m, made, amount, status⟩ := ih mem
      exact ⟨m, made, amount, posts.status? ▸ status⟩

theorem walletEntries (books : Books number t legs t') (id : WalletId) :
    ∃ es, t'.walletEntries id = t.walletEntries id ++ es ∧
      es.map (·.amount) = amountsOn id (legs.map Leg.line) ∧
      ∀ e ∈ es, e.transactionId = number ∧
        ∃ leg ∈ legs, leg.line.account = .wallet id ∧ leg.line.amount = e.amount := by
  obtain ⟨es, appended, mine, lines⟩ := books.entries
  refine ⟨es.filter (·.account = .wallet id), ?_, ?_, fun e mem => ?_⟩
  · rw [Tables.walletEntries, appended, List.filter_append]
    rfl
  · rw [← lines, amountsOn, List.filter_map, List.map_map]
    rfl
  · obtain ⟨mem, on⟩ := List.mem_filter.mp mem
    have there : e.line ∈ legs.map Leg.line := lines ▸ List.mem_map_of_mem mem
    obtain ⟨leg, mem', same⟩ := List.mem_map.mp there
    refine ⟨mine e mem, leg, mem', ?_, by rw [same]; rfl⟩
    rw [same]
    exact of_decide_eq_true on

-- Only refunds reach a closed wallet.
theorem closed (books : Books number t legs t') (closed : t.status? id = some .closed)
    (mem : leg ∈ legs) (on : leg.line.account = .wallet id) :
    leg.isRefund = true ∧ 0 < leg.line.amount := by
  obtain ⟨m, made, amount, status⟩ := books.moved mem on
  rw [closed, Option.some.injEq] at status
  rw [amount]
  exact made.refunds status.symm

end Books

namespace Tables

variable {t t' u u' : Tables} {id : WalletId}

-- What one step may do to a wallet by its status.
structure Guards (t : Tables) (id : WalletId) (t' : Tables) : Prop where
  debits : ∃ es, t'.walletEntries id = t.walletEntries id ++ es ∧
    ∀ e ∈ es, e.amount < 0 → t.status? id = some .active
  closes : ∀ w, t'.wallet? id = some w → w.status = .closed →
    t.status? id = some .closed ∨ w.balance.isZero = true
  stays : t.status? id = some .closed → t'.status? id = some .closed

namespace Guards

theorem of_status (status : t'.status? id = t.status? id)
    (debits : ∃ es, t'.walletEntries id = t.walletEntries id ++ es ∧
      ∀ e ∈ es, e.amount < 0 → t.status? id = some .active) : t.Guards id t' := by
  refine ⟨debits, fun w stored closed => .inl ?_, fun closed => status.trans closed⟩
  rw [← status, Tables.status?, stored, Option.map_some, closed]

theorem idle (status : t'.status? id = t.status? id)
    (entries : t'.walletEntries id = t.walletEntries id) : t.Guards id t' :=
  of_status status ⟨[], by rw [entries, List.append_nil], by rintro _ ⟨⟩⟩

theorem books (books : Books number t legs t') (id : WalletId) : t.Guards id t' := by
  refine of_status books.status? ?_
  obtain ⟨es, appended, _, told⟩ := books.walletEntries id
  refine ⟨es, appended, fun e mem negative => ?_⟩
  obtain ⟨_, leg, mem, on, amount⟩ := told e mem
  obtain ⟨m, made, same, status⟩ := books.moved mem on
  rw [← amount, same] at negative
  rw [status, made.active negative]

theorem of_same (guards : t.Guards id t') (before : u.wallets = t.wallets ∧ u.entries = t.entries)
    (after : u'.wallets = t'.wallets ∧ u'.entries = t'.entries) : u.Guards id u' := by
  have first : u.status? id = t.status? id ∧ u.walletEntries id = t.walletEntries id := by
    unfold Tables.status? Tables.wallet? Tables.walletEntries
    rw [before.1, before.2]
    exact ⟨rfl, rfl⟩
  have last : u'.wallet? id = t'.wallet? id ∧ u'.walletEntries id = t'.walletEntries id := by
    unfold Tables.wallet? Tables.walletEntries
    rw [after.1, after.2]
    exact ⟨rfl, rfl⟩
  refine ⟨?_, ?_, ?_⟩
  · rw [first.1, first.2, last.2]
    exact guards.debits
  · rw [first.1, last.1]
    exact guards.closes
  · rw [first.1]
    exact fun closed => (congrArg (Option.map _) last.1).trans (guards.stays closed)

theorem opened (free : t.wallet? w.id = none) (new : w.status ≠ .closed) :
    t.Guards id (t.withWallet w) := by
  have found : (t.withWallet w).wallet? id = if w.id = id then some w else t.wallet? id :=
    Rows.find?_append_new free id
  by_cases here : w.id = id
  · rw [if_pos here] at found
    rw [here] at free
    refine ⟨⟨[], (List.append_nil _).symm, by rintro _ ⟨⟩⟩, fun v stored closed => ?_, fun closed => ?_⟩
    · cases found.symm.trans stored
      exact absurd closed new
    · rw [Tables.status?, free] at closed
      cases closed
  · rw [if_neg here] at found
    exact idle (congrArg (Option.map _) found) rfl

theorem restated (stored : t.wallet? number = some w) (unclosed : w.status ≠ .closed)
    (empty : status = .closed → w.balance.isZero = true) (moment : Instant) :
    t.Guards id (t.withStatus number status moment) := by
  by_cases here : id = number
  · subst here
    have found : (t.withStatus id status moment).wallet? id = some { w with status, updatedAt := moment } :=
      Rows.find?_amend_same (by intros; rfl) stored
    refine ⟨⟨[], (List.append_nil _).symm, by rintro _ ⟨⟩⟩, fun v there closed => ?_, fun closed => ?_⟩
    · cases found.symm.trans there
      exact .inr (empty closed)
    · rw [Tables.status?, stored, Option.map_some, Option.some.injEq] at closed
      exact absurd closed unclosed
  · exact idle (congrArg (Option.map _) (Rows.find?_amend_other (by intros; rfl) here)) rfl

end Guards

-- Every step keeps to it, and so does every event of a run.
theorem guards_of_step (step : Step g t g' t') (id : WalletId) : t.Guards id t' := by
  have still (wallets : t'.wallets = t.wallets) (entries : t'.entries = t.entries) : t.Guards id t' :=
    (Guards.idle rfl rfl : t.Guards id t).of_same ⟨rfl, rfl⟩ ⟨wallets, entries⟩
  cases step with
  | change change =>
    cases change.books with
    | same books => exact still books.wallets books.entries
    | opened _ _ _ _ _ free => exact .opened free nofun
    | restated stored unclosed empty => exact .restated stored unclosed empty _
    | created before created after =>
      exact (Guards.books created.books id).of_same ⟨before.wallets.symm, before.entries.symm⟩
        ⟨after.wallets, after.entries⟩
    | touched => exact still rfl rfl
  | settle c settles =>
    cases settles with
    | touched => exact still rfl rfl
    | decided _ _ _ _ books => exact (Guards.books books id).of_same ⟨rfl, rfl⟩ ⟨rfl, rfl⟩

end Tables

section Waiting

variable {t t' : Tables} {r : Transaction} {leg : Leg} {id : WalletId}

-- A payment of the wallet through a provider, and its end is not known.
structure Transaction.WaitsOn (r : Transaction) (id : WalletId) : Prop where
  wallet : r.walletId = id
  external : r.kind.isExternal = true
  waits : r.status = .pending ∨ r.status = .unknown

-- Nothing but payments through providers ever waits.
def Transaction.OwnSucceeded (r : Transaction) : Prop :=
  r.kind.isExternal = true ∨ r.status = .succeeded

theorem Transaction.ownSucceeded_lasting : Transaction.Lasting Transaction.OwnSucceeded := by
  refine ⟨fun t r legs opening => ?_, fun r moment own => own,
    fun t r c legs noted moment own current moves _ => ?_⟩
  · cases kind : r.kind.isExternal with
    | true => exact .inl kind
    | false => exact .inr (opening.succeeded kind)
  · rcases own with external | succeeded
    · exact .inl external
    · rw [← current, succeeded] at moves
      cases moves

theorem Transaction.OwnSucceeded.waitsOn (own : r.OwnSucceeded)
    (moves : r.status.canBecome next = true) : r.WaitsOn r.walletId := by
  have waits : r.status = .pending ∨ r.status = .unknown := by
    cases now : r.status with
    | pending => exact .inl rfl
    | unknown => exact .inr rfl
    | succeeded | failed =>
      rw [now] at moves
      cases moves
  refine ⟨rfl, own.resolve_right fun succeeded => ?_, waits⟩
  rw [succeeded] at moves
  cases moves

theorem Opening.unrefunded (opening : Opening t r legs) (mem : leg ∈ legs) : leg.isRefund = false := by
  have fees (currency : Currency) (fee : Decimal) (mem : leg ∈ feeLegs currency fee) :
      leg.isRefund = false := by
    unfold feeLegs at mem
    split at mem
    · cases List.mem_singleton.mp mem
      rfl
    · cases mem
  cases opening with
  | deposit =>
    simp only [depositLegs, List.mem_cons, List.not_mem_nil, or_false] at mem
    rcases mem with rfl | rfl <;> rfl
  | payout =>
    simp only [payoutLegs, List.mem_cons, List.not_mem_nil, or_false] at mem
    rcases mem with rfl | rfl <;> rfl
  | transfer _ _ farEnd =>
    simp only [transferLegs, List.mem_cons] at mem
    rcases mem with rfl | rfl | mem
    · rfl
    · cases farEnd <;> rfl
    · exact fees _ _ mem
  | reservation =>
    simp only [reservationLegs, List.mem_cons] at mem
    rcases mem with rfl | rfl | mem
    · rfl
    · rfl
    · exact fees _ _ mem

theorem Created.not_waitsOn (created : Created g t g' r legs t')
    (closed : t.status? id = some .closed) : ¬ r.WaitsOn id := by
  intro waits
  have books := created.books
  obtain ⟨w, _, _, rfl, opens⟩ := created.opening.reserving waits.external
  have number : w.id = id := (Rows.key_of_find? opens.stored).trans waits.wallet
  cases (books.closed closed List.mem_cons_self (congrArg Account.wallet number)).1

theorem differenceLegs_on (outside : account.walletId? = none)
    (mem : leg ∈ differenceLegs r account w found) (on : leg.line.account = .wallet id) : w.id = id := by
  cases found with
  | none => cases mem
  | shortfall => cases mem
  | refund | charge =>
    simp only [differenceLegs, List.mem_cons, List.not_mem_nil, or_false] at mem
    rcases mem with rfl | rfl
    · exact Account.wallet.inj on
    · cases on
      cases outside

theorem compensationLegs_on (outside : account.walletId? = none)
    (mem : leg ∈ compensationLegs r w account total) (on : leg.line.account = .wallet id) : w.id = id := by
  unfold compensationLegs at mem
  rcases List.mem_cons.mp mem with rfl | mem
  · exact Account.wallet.inj on
  · rcases List.mem_cons.mp mem with rfl | mem
    · cases on
      cases outside
    · split at mem
      · cases List.mem_singleton.mp mem
        cases on
      · cases mem

-- A settlement moves no other wallet than its own, and only when it is the last.
theorem Resolves.own (resolves : Resolves t r provider outcome legs noted)
    (mem : leg ∈ legs) (on : leg.line.account = .wallet id) :
    r.walletId = id ∧ outcome.status.isFinal = true := by
  cases resolves with
  | accepted => cases mem
  | exact => cases mem
  | waiting => cases mem
  | adjusted _ _ _ stored =>
    have number := Rows.key_of_find? stored
    exact ⟨number ▸ differenceLegs_on rfl mem on, rfl⟩
  | compensated stored =>
    have number := Rows.key_of_find? stored
    exact ⟨number ▸ compensationLegs_on rfl mem on, rfl⟩

end Waiting

namespace Tables

variable {t₀ t t' : Tables} {id : WalletId} {es : List Entry}

-- What comes onto a wallet that is closed: refunds of payments that waited when it was closed, and
-- no payment is refunded twice.
structure Refunds (t₀ : Tables) (id : WalletId) (es : List Entry) (t : Tables) : Prop where
  closed : t.status? id = some .closed
  entries : t.walletEntries id = t₀.walletEntries id ++ es
  owed : ∀ e ∈ es, 0 < e.amount ∧ ∃ r, t₀.transaction? e.transactionId = some r ∧ r.WaitsOn id
  once : (es.map (·.transactionId)).Nodup

-- With what is still to come: it waited then, too, and is not refunded yet.
structure Sealed (t₀ : Tables) (id : WalletId) (es : List Entry) (t : Tables) : Prop
    extends t₀.Refunds id es t where
  left : ∀ number r, t.transaction? number = some r → r.WaitsOn id →
    number ∉ es.map (·.transactionId) ∧ ∃ r₀, t₀.transaction? number = some r₀ ∧ r₀.WaitsOn id

theorem transaction?_decided {c : SettleCall} {number : TransactionId}
    (stored : t.transaction? c.id = some r) (books : Books c.id t legs t')
    (after : (t'.withChanged c.id (c.update r noted).apply moment).transaction? number = some x) :
    (number = c.id ∧ x = r.Decided c noted moment) ∨
      number ≠ c.id ∧ t.transaction? number = some x := by
  rcases transaction?_changed (by intro; rfl) after with ⟨mine, r', there, rfl⟩ | ⟨other, there⟩
  · rw [transaction?, books.transactions] at there
    cases stored.symm.trans there
    exact .inl ⟨mine, rfl⟩
  · rw [transaction?, books.transactions] at there
    exact .inr ⟨other, there⟩

namespace Sealed

theorem start (closed : t.status? id = some .closed) : t.Sealed id [] t :=
  ⟨⟨closed, (List.append_nil _).symm, by rintro _ ⟨⟩, .nil⟩,
    fun _ r stored waits => ⟨List.not_mem_nil, r, stored, waits⟩⟩

-- Nothing comes onto the wallet, and nothing begins to wait on it.
theorem quiet (seals : t₀.Sealed id es t) (closed : t'.status? id = some .closed)
    (entries : t'.walletEntries id = t.walletEntries id)
    (waits : ∀ number r, t'.transaction? number = some r → r.WaitsOn id →
      ∃ r', t.transaction? number = some r' ∧ r'.WaitsOn id) : t₀.Sealed id es t' := by
  refine ⟨⟨closed, entries.trans seals.entries, seals.owed, seals.once⟩,
    fun number r stored waiting => ?_⟩
  obtain ⟨r', stored', waiting'⟩ := waits number r stored waiting
  exact seals.left number r' stored' waiting'

theorem same (seals : t₀.Sealed id es t) (closed : t'.status? id = some .closed)
    (transactions : t'.transactions = t.transactions) (entries : t'.entries = t.entries) :
    t₀.Sealed id es t' := by
  refine seals.quiet closed (by rw [walletEntries, entries]; rfl) fun number r stored waiting => ?_
  rw [transaction?, transactions] at stored
  exact ⟨r, stored, waiting⟩

theorem touched (seals : t₀.Sealed id es t) : t₀.Sealed id es (t.withTouched number moment) := by
  refine seals.quiet seals.closed rfl fun key r stored waiting => ?_
  rcases transaction?_changed (by intro; rfl) stored with ⟨rfl, r', found, rfl⟩ | ⟨_, kept⟩
  · exact ⟨r', found, waiting.wallet, waiting.external, waiting.waits⟩
  · exact ⟨r, kept, waiting⟩

theorem created (seals : t₀.Sealed id es t) (created : Created g t g' r legs t') :
    t₀.Sealed id es t' := by
  have books := created.books
  refine seals.quiet (books.status?.trans seals.closed) ?_ fun number x stored waiting => ?_
  · obtain ⟨more, appended, _, told⟩ := books.walletEntries id
    cases more with
    | nil => rw [appended, List.append_nil]; rfl
    | cons e =>
      obtain ⟨_, leg, mem, on, _⟩ := told e List.mem_cons_self
      have refunded := (books.closed seals.closed mem on).1
      cases refunded.symm.trans (created.opening.unrefunded mem)
  · rw [transaction?, books.transactions, withTransaction, Rows.find?_put] at stored
    split at stored
    · cases stored
      exact absurd waiting (created.not_waitsOn seals.closed)
    · exact ⟨x, stored, waiting⟩

theorem refunded (seals : t₀.Sealed id es t) (closed : t'.status? id = some .closed)
    (entries : t'.walletEntries id = t.walletEntries id ++ [e]) (positive : 0 < e.amount)
    (stored : t.transaction? e.transactionId = some r) (waiting : r.WaitsOn id)
    (waits : ∀ number x, t'.transaction? number = some x → x.WaitsOn id →
      number ≠ e.transactionId ∧ t.transaction? number = some x) : t₀.Sealed id (es ++ [e]) t' := by
  obtain ⟨unpaid, owed⟩ := seals.left _ r stored waiting
  refine ⟨⟨closed, ?_, fun x there => ?_, ?_⟩, fun number x after still => ?_⟩
  · rw [← List.append_assoc, ← seals.entries]
    exact entries
  · rcases List.mem_append.mp there with old | new
    · exact seals.owed x old
    · cases List.mem_singleton.mp new
      exact ⟨positive, owed⟩
  · rw [List.map_append, List.nodup_append]
    refine ⟨seals.once, by simp, ?_⟩
    rintro a paid b last rfl
    rw [List.map_singleton, List.mem_singleton] at last
    exact unpaid (last ▸ paid)
  · obtain ⟨other, there⟩ := waits number x after still
    obtain ⟨unpaid, first⟩ := seals.left number x there still
    refine ⟨fun paid => ?_, first⟩
    rw [List.map_append, List.mem_append, List.map_singleton, List.mem_singleton] at paid
    exact paid.elim unpaid other

-- A decision that books something on the wallet refunds a payment that waited.
theorem decided (seals : t₀.Sealed id es t) (own : t.Records Transaction.OwnSucceeded)
    {c : SettleCall} (stored : t.transaction? c.id = some r) (current : r.status = c.expected)
    (moves : c.expected.canBecome c.outcome.status = true)
    (resolves : Resolves t r c.provider c.outcome legs noted) (books : Books c.id t legs t')
    (moment : Instant) :
    ∃ more, t₀.Sealed id (es ++ more) (t'.withChanged c.id (c.update r noted).apply moment) := by
  have waiting := (own _ _ stored).waitsOn (current ▸ moves)
  have closed : (t'.withChanged c.id (c.update r noted).apply moment).status? id = some .closed :=
    books.status?.trans seals.closed
  obtain ⟨more, appended, amounts, told⟩ := books.walletEntries id
  match more with
  | [] =>
    refine ⟨[], ?_⟩
    rw [List.append_nil] at appended ⊢
    refine seals.quiet closed appended fun number x after waits => ?_
    rcases transaction?_decided stored books after with ⟨rfl, rfl⟩ | ⟨_, there⟩
    · exact ⟨r, stored, waits.wallet, waiting.external, waiting.waits⟩
    · exact ⟨x, there, waits⟩
  | e :: rest =>
    have single : rest = [] := by
      have short := resolves.once id
      rw [← amounts, List.length_map, List.length_cons] at short
      exact List.length_eq_zero_iff.mp (by omega)
    subst single
    obtain ⟨mine, leg, mem, on, amount⟩ := told e List.mem_cons_self
    obtain ⟨here, final⟩ := resolves.own mem on
    have positive := (books.closed seals.closed mem on).2
    rw [amount] at positive
    refine ⟨[e], seals.refunded closed appended positive (mine ▸ stored) (here ▸ waiting)
      fun number x after waits => ?_⟩
    rcases transaction?_decided stored books after with ⟨rfl, rfl⟩ | ⟨other, there⟩
    · have ended : c.outcome.status = .pending ∨ c.outcome.status = .unknown := waits.waits
      rcases ended with ended | ended <;> rw [ended] at final <;> cases final
    · exact ⟨mine ▸ other, there⟩

theorem step (seals : t₀.Sealed id es t) (own : t.Records Transaction.OwnSucceeded)
    (step : Step g t g' t') : ∃ more, t₀.Sealed id (es ++ more) t' := by
  have closed := (guards_of_step step id).stays seals.closed
  have quietly (after : t₀.Sealed id es t') : ∃ more, t₀.Sealed id (es ++ more) t' :=
    ⟨[], by rwa [List.append_nil]⟩
  cases step with
  | change change =>
    cases change.books with
    | same books => exact quietly (seals.same closed books.transactions books.entries)
    | opened => exact quietly (seals.same closed rfl rfl)
    | restated => exact quietly (seals.same closed rfl rfl)
    | created before created after =>
      have began := seals.same (by rw [status?, wallet?, before.wallets]; exact seals.closed)
        before.transactions before.entries
      exact quietly ((began.created created).same closed after.transactions after.entries)
    | touched => exact quietly seals.touched
  | settle c settles =>
    cases settles with
    | touched => exact quietly seals.touched
    | decided stored current moves resolves books =>
      exact seals.decided own stored current moves resolves books _

end Sealed
end Tables

namespace World

theorem Sound.sealed {w : World} {id : WalletId} (sound : w.Sound)
    (own : w.server.tables.Records Transaction.OwnSucceeded)
    (closed : w.server.tables.status? id = some .closed) (events : List Event) :
    ∃ es, w.server.tables.Sealed id es (w.after events).server.tables := by
  have kept := sound.induct (I := fun _ t => t.Records Transaction.OwnSucceeded ∧
      ∃ es, w.server.tables.Sealed id es t) (fun _ _ _ _ _ step before => ?_)
    ⟨own, [], .start closed⟩ events
  · exact kept.2
  · obtain ⟨own, es, seals⟩ := before
    obtain ⟨more, seals⟩ := seals.step own step
    exact ⟨own.step Transaction.ownSucceeded_lasting step, _, seals⟩

-- In every step of every run, a wallet is debited only while it is active, is closed only when it is
-- empty, and stays closed; and from then on nothing but refunds of what waited comes onto it.
theorem run_closing (events : List Event) (id : WalletId) :
    (∀ e, (run events).server.tables.Guards id ((run events).take e).server.tables) ∧
      ((run events).server.tables.status? id = some .closed → ∀ later : List Event, ∃ es,
        (run events).server.tables.Refunds id es ((run events).after later).server.tables) := by
  have sound := run_sound events
  refine ⟨fun e => Tables.guards_of_step (sound.step e).2 id, fun closed later => ?_⟩
  obtain ⟨es, seals⟩ := sound.sealed (run_records Transaction.ownSucceeded_lasting events) closed later
  exact ⟨es, seals.toRefunds⟩

-- All that a wallet holds is reserved for a payout, and the wallet is closed.
def closingEvents : List Event :=
  depositEvents ++
    [.begin (.payOut ⟨⟨none, some "bank", none⟩, 1000⟩ ⟨none, Supply.wallet ⟨0⟩, .ngn,
        .ofCents 2430 (by decide), .ofCents 70 (by decide), "058", "1", "A", ""⟩),
      .advance 2, .advance 2, .begin (.setWalletStatus (Supply.wallet ⟨0⟩) .closed), .advance 3]

-- Then the payout fails.
def refusedEvents : List Event := [.reply 2 ⟨.failed "closed" none, none⟩, .advance 2, .advance 2]

theorem run_closing_refunded : ∃ es,
    es.map (·.amount) = [.ofCents 2500 (by decide)] ∧
      (run closingEvents).server.tables.Refunds (Supply.wallet ⟨0⟩) es
        ((run closingEvents).after refusedEvents).server.tables := by
  obtain ⟨es, refunds⟩ := (run_closing closingEvents (Supply.wallet ⟨0⟩)).2 (by decide +kernel)
    refusedEvents
  have before : ((run closingEvents).server.tables.walletEntries (Supply.wallet ⟨0⟩)).map (·.amount) =
      [.ofCents 2500 (by decide), -.ofCents 2500 (by decide)] := by decide +kernel
  have after : (((run closingEvents).after refusedEvents).server.tables.walletEntries
      (Supply.wallet ⟨0⟩)).map (·.amount) =
      [.ofCents 2500 (by decide), -.ofCents 2500 (by decide), .ofCents 2500 (by decide)] := by
    decide +kernel
  refine ⟨es, ?_, refunds⟩
  rw [refunds.entries, List.map_append, before] at after
  exact List.append_cancel_left after

end World
end Treasury
