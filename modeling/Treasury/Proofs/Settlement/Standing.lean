import Treasury.Proofs.Ledger.Balance

namespace Treasury

open External

def Gauge.Distinct (g : Gauge) : Prop :=
  ∀ m n, m < g.supply.issued → n < g.supply.issued →
    Supply.transaction ⟨m⟩ = Supply.transaction ⟨n⟩ → m = n

theorem Gauge.Distinct.before {g g' : Gauge} (distinct : g'.Distinct) (before : g.Before g') :
    g.Distinct :=
  fun m n low high => distinct m n (Nat.lt_of_lt_of_le low before) (Nat.lt_of_lt_of_le high before)

theorem Gauge.distinct_of_le {g : Gauge} (few : g.supply.issued ≤ 2 ^ 80) : g.Distinct := by
  intro m n low high same
  have bits := congrArg (fun id : TransactionId => id.ulid.bits) same
  simp only [Supply.transaction, Ulid.numbered, Nat.pow_eq] at bits
  rw [Nat.mod_eq_of_lt (by omega : m < 2 ^ 80), Nat.mod_eq_of_lt (by omega : n < 2 ^ 80)] at bits
  omega

def feeLines (currency : Currency) (fee : Decimal) : List Line :=
  if 0 < fee then [⟨.fees, currency, fee, fee⟩] else []

def reservationLines (r : Transaction) (provider : String) (total : Decimal) : List Line :=
  ⟨.wallet r.walletId, r.currency, -total, -total⟩ ::
    ⟨providerAccount r.platform provider, r.currency, r.amount, r.amount⟩ ::
    feeLines r.currency r.fee

def compensationLines (r : Transaction) (provider : String) (total : Decimal) : List Line :=
  ⟨.wallet r.walletId, r.currency, total, total⟩ ::
    ⟨providerAccount r.platform provider, r.currency, -r.amount, -r.amount⟩ ::
    if 0 < r.fee then [⟨.fees, r.currency, -r.fee, -r.fee⟩] else []

def adjustmentLines (r : Transaction) (provider : String) : Option Decimal → List Line
  | none => []
  | some x =>
    [⟨.wallet r.walletId, r.currency, x, x⟩,
      ⟨providerAccount r.platform provider, r.currency, -x, -x⟩]

def Transaction.adjustment? (r : Transaction) : Option Decimal :=
  r.details.settlement?.bind (·.adjustment)

-- A payment through a provider, and the total that was reserved for it.
structure Transaction.Reserves (r : Transaction) (total : Decimal) : Prop where
  kind : r.kind.isExternal = true
  platform : r.platform.isExternal = true
  sum : r.total = .ok total
  positive : ¬ total ≤ 0
  fee : ¬ 0 < r.fee → r.fee.isZero = true

-- How a record stands to its lines. One that no provider settles is as it was when it was
-- written, but for the time of its last change.
inductive Standing (r : Transaction) : List Line → Prop where
  | booked (opening : Opening t r₀ legs) (own : r₀.kind.isExternal = false)
      (same : r = { r₀ with updatedAt := r.updatedAt }) : Standing r (legs.map Leg.line)
  | reserved (reserves : r.Reserves total) (waits : r.status = .pending ∨ r.status = .unknown) :
      Standing r (reservationLines r provider total)
  | compensated (reserves : r.Reserves total) (failed : r.status = .failed) :
      Standing r (reservationLines r provider total ++ compensationLines r settler total)
  | settled (reserves : r.Reserves total) (succeeded : r.status = .succeeded) :
      Standing r (reservationLines r provider total ++ adjustmentLines r settler r.adjustment?)

theorem Opening.succeeded (opening : Opening t r legs) (own : r.kind.isExternal = false) :
    r.status = .succeeded := by
  cases opening with
  | deposit _ _ _ _ shape => rw [shape]
  | transfer _ _ _ _ _ _ _ _ _ shape => rw [shape]
  | payout _ _ shape => rw [shape]
  | reservation d placed _ _ _ shape =>
    have outside := placed.kind
    rw [shape] at own
    exact absurd (outside.symm.trans own) (by decide)

-- A new payment that its wallet was debited for.
structure Transaction.Reserving (t : Tables) (r : Transaction) (w : Wallet) (total : Decimal) : Prop where
  stored : t.wallet? r.walletId = some w
  currency : w.currency = r.currency
  platform : r.platform.isExternal = true
  fee : ¬ 0 < r.fee → r.fee.isZero = true
  pending : r.status = .pending
  sum : r.total = .ok total

theorem Opening.reserving (opening : Opening t r legs) (external : r.kind.isExternal = true) :
    ∃ w provider total, legs = reservationLegs r w provider total ∧ r.Reserving t w total := by
  cases opening with
  | deposit _ _ _ _ shape =>
    rw [shape] at external
    cases external
  | transfer _ _ _ _ _ _ _ _ _ shape =>
    rw [shape] at external
    cases external
  | payout _ _ shape =>
    rw [shape] at external
    cases external
  | reservation d placed provider stored currency shape sum =>
    refine ⟨_, provider, _, rfl, ?_, ?_, ?_, ?_, ?_, sum⟩
    all_goals rw [shape]
    · exact stored
    · exact currency
    · exact placed.platform
    · exact placed.fee
    · rfl

theorem Opening.held (opening : Opening t r legs) :
    (t.wallet? r.walletId).map (·.currency) = some r.currency := by
  have found {number : WalletId} {w : Wallet} (stored : t.wallet? number = some w) :
      (t.wallet? w.id).map (·.currency) = some w.currency := by
    have same : w.id = number := Rows.key_of_find? stored
    rw [same, stored]
    rfl
  cases opening with
  | deposit _ stored _ _ shape =>
    rw [shape]
    exact found stored
  | transfer _ _ _ _ stored _ _ _ _ shape =>
    rw [shape]
    exact found stored
  | payout _ stored shape =>
    rw [shape]
    exact found stored
  | reservation d _ _ stored currency shape =>
    rw [shape]
    change (t.wallet? d.walletId).map _ = some d.currency
    rw [stored, ← currency]
    rfl

theorem Details.settle_platform (d : Details) (noted : Settlement) :
    (d.settle noted).platform = d.platform := by
  cases d <;> rfl

theorem Details.settle_noted {d : Details} (outside : d.platform.isExternal = true)
    (noted : Settlement) : (d.settle noted).settlement? = some noted := by
  cases d <;> first | rfl | cases outside

-- What a reservation depends on in a record.
structure Transaction.Kin (r r' : Transaction) : Prop where
  kind : r'.kind = r.kind
  platform : r'.platform = r.platform
  wallet : r'.walletId = r.walletId
  currency : r'.currency = r.currency
  amount : r'.amount = r.amount
  fee : r'.fee = r.fee

namespace Transaction.Kin

variable {r r' : Transaction}

theorem reserves {total : Decimal} (kin : r.Kin r') (reserves : r.Reserves total) :
    r'.Reserves total := by
  refine ⟨by rw [kin.kind]; exact reserves.kind, by rw [kin.platform]; exact reserves.platform, ?_,
    reserves.positive, by rw [kin.fee]; exact reserves.fee⟩
  rw [Transaction.total, kin.amount, kin.fee]
  exact reserves.sum

theorem reservationLines (kin : r.Kin r') (provider : String) (total : Decimal) :
    Treasury.reservationLines r' provider total = Treasury.reservationLines r provider total := by
  rw [Treasury.reservationLines, Treasury.reservationLines, kin.platform, kin.wallet, kin.currency,
    kin.amount, kin.fee]

theorem compensationLines (kin : r.Kin r') (provider : String) (total : Decimal) :
    Treasury.compensationLines r' provider total = Treasury.compensationLines r provider total := by
  rw [Treasury.compensationLines, Treasury.compensationLines, kin.platform, kin.wallet, kin.currency,
    kin.amount, kin.fee]

theorem adjustmentLines (kin : r.Kin r') (provider : String) (x : Option Decimal) :
    Treasury.adjustmentLines r' provider x = Treasury.adjustmentLines r provider x := by
  cases x with
  | none => rfl
  | some x =>
    rw [Treasury.adjustmentLines, Treasury.adjustmentLines, kin.platform, kin.wallet, kin.currency]

end Transaction.Kin

def Transaction.Decided (r : Transaction) (c : SettleCall) (noted : Settlement) (moment : Instant) :
    Transaction := { (c.update r noted).apply r with updatedAt := moment }

theorem Transaction.Decided.kin (r : Transaction) (c : SettleCall) (noted : Settlement)
    (moment : Instant) : r.Kin (r.Decided c noted moment) :=
  ⟨rfl, Details.settle_platform _ _, rfl, rfl, rfl, rfl⟩

theorem compensationLegs_lines (held : w.id = r.walletId) (currency : w.currency = r.currency) :
    (compensationLegs r w (providerAccount r.platform provider) total).map Leg.line =
      compensationLines r provider total := by
  unfold compensationLegs compensationLines
  rw [← held, ← currency]
  split <;> rfl

theorem reservationLegs_lines (held : w.id = r.walletId) (currency : w.currency = r.currency) :
    (reservationLegs r w provider total).map Leg.line = reservationLines r provider total := by
  unfold reservationLegs reservationLines feeLegs feeLines
  rw [← held, ← currency]
  split <;> rfl

theorem differenceLegs_lines (held : w.id = r.walletId) (currency : w.currency = r.currency)
    (found : Difference) (reported : Option Decimal) :
    (differenceLegs r (providerAccount r.platform provider) w found).map Leg.line =
      adjustmentLines r provider
        (found.note { Settlement.by provider with settledAmount := reported }).adjustment := by
  cases found with
  | none => rfl
  | refund amount =>
    simp [differenceLegs, Difference.note, adjustmentLines, Leg.line, held, currency]
  | charge amount =>
    simp [differenceLegs, Difference.note, adjustmentLines, Leg.line, held, currency]
  | shortfall amount => rfl

namespace Standing

variable {r : Transaction} {lines : List Line}

theorem touched (standing : Standing r lines) (moment : Instant) :
    Standing { r with updatedAt := moment } lines := by
  have kin : r.Kin { r with updatedAt := moment } := ⟨rfl, rfl, rfl, rfl, rfl, rfl⟩
  cases standing with
  | booked opening own same =>
    refine .booked opening own ?_
    rw [same]
  | reserved reserves waits => exact .reserved (kin.reserves reserves) waits
  | compensated reserves failed => exact .compensated (kin.reserves reserves) failed
  | settled reserves succeeded => exact .settled (kin.reserves reserves) succeeded

theorem reserves (standing : Standing r lines) (external : r.kind.isExternal = true) :
    ∃ total, r.Reserves total := by
  cases standing with
  | booked _ own same =>
    rw [same] at external
    cases own.symm.trans external
  | reserved reserves => exact ⟨_, reserves⟩
  | compensated reserves => exact ⟨_, reserves⟩
  | settled reserves => exact ⟨_, reserves⟩

-- Only what waits can be decided, and the decision books what its outcome brings.
theorem decided (standing : Standing r lines) (moves : r.status.canBecome c.outcome.status = true)
    (held : (t.wallet? r.walletId).map (·.currency) = some r.currency)
    (resolves : Resolves t r c.provider c.outcome legs noted) (moment : Instant) :
    Standing (r.Decided c noted moment) (lines ++ legs.map Leg.line) := by
  have final (ended : r.status = .succeeded ∨ r.status = .failed) : False := by
    rcases ended with ended | ended <;> rw [ended] at moves <;> cases moves
  obtain ⟨id, expected, settler, outcome⟩ := c
  cases standing with
  | booked opening own same =>
    refine (final (.inl ?_)).elim
    rw [same]
    exact opening.succeeded own
  | compensated _ failed => exact (final (.inr failed)).elim
  | settled _ succeeded => exact (final (.inl succeeded)).elim
  | @reserved total provider reserves =>
    have kin := Transaction.Decided.kin r ⟨id, expected, settler, outcome⟩ noted moment
    have now := kin.reserves reserves
    -- The platform settles outside, so the record keeps the note with its adjustment.
    have adjusted : (r.Decided ⟨id, expected, settler, outcome⟩ noted moment).adjustment? =
        noted.adjustment := by
      change (r.details.settle noted).settlement?.bind _ = _
      rw [Details.settle_noted reserves.platform]
      rfl
    have stored {w : Wallet} (there : t.wallet? r.walletId = some w) :
        w.id = r.walletId ∧ w.currency = r.currency := by
      refine ⟨Rows.key_of_find? there, ?_⟩
      rw [there] at held
      exact Option.some.inj held
    have settled (succeeded : outcome.status = .succeeded) :
        Standing (r.Decided ⟨id, expected, settler, outcome⟩ noted moment)
          (reservationLines r provider total ++ adjustmentLines r settler noted.adjustment) := by
      rw [← kin.reservationLines, ← kin.adjustmentLines, ← adjusted]
      exact .settled now succeeded
    cases resolves with
    | accepted => exact settled rfl
    | exact => exact settled rfl
    | adjusted _ _ _ there =>
      rw [differenceLegs_lines (stored there).1 (stored there).2]
      exact settled rfl
    | compensated there sum =>
      have same : _ = total := Except.ok.inj (sum.symm.trans reserves.sum)
      subst same
      rw [compensationLegs_lines (stored there).1 (stored there).2, ← kin.compensationLines,
        ← kin.reservationLines]
      exact .compensated now rfl
    | waiting =>
      rw [List.map_nil, List.append_nil, ← kin.reservationLines]
      exact .reserved now (.inr rfl)

theorem opened (opening : Opening t r legs) (books : Books r.id t₁ legs t₂) :
    Standing r (legs.map Leg.line) := by
  cases kind : r.kind.isExternal with
  | false => exact .booked opening kind rfl
  | true =>
    obtain ⟨w, provider, total, rfl, opens⟩ := opening.reserving kind
    rw [reservationLegs_lines (Rows.key_of_find? opens.stored) opens.currency]
    refine .reserved ⟨kind, opens.platform, opens.sum, ?_, opens.fee⟩ (.inl opens.pending)
    cases books with
    | cons posts =>
      cases posts with
      | wallet m made => exact (Ledger.Movement.debit_parts (Option.some.inj made)).1

end Standing

namespace Tables

variable {g g' : Gauge} {t t' : Tables} {c : SettleCall}

-- Transactions stand once, under identifiers given out before, each over a wallet in its own
-- currency, and every entry belongs to one of them.
structure Orderly (g : Gauge) (t : Tables) : Prop where
  single : (t.transactions.map Transaction.id).Nodup
  issued : ∀ r ∈ t.transactions, ∃ n, n < g.supply.issued ∧ r.id = Supply.transaction ⟨n⟩
  known : ∀ e ∈ t.entries, e.transactionId ∈ t.transactions.map Transaction.id
  held : ∀ r ∈ t.transactions, (t.wallet? r.walletId).map (·.currency) = some r.currency
  standing : ∀ r ∈ t.transactions, Standing r ((t.entriesOf r.id).map Entry.line)

theorem currency_of_faces (faces : t'.wallets.map Wallet.face = t.wallets.map Wallet.face)
    (id : WalletId) : (t'.wallet? id).map (·.currency) = (t.wallet? id).map (·.currency) := by
  have through (rows : List Wallet) : (Rows.find? Wallet.id id rows).map (·.currency) =
      ((rows.map Wallet.face).find? fun f => f.1 = id).map (·.2.2.1) := by
    rw [List.find?_map, Option.map_map]
    rfl
  rw [wallet?, wallet?, through, through, faces]

namespace Orderly

theorem empty (g : Gauge) : Tables.empty.Orderly g :=
  ⟨.nil, by rintro _ ⟨⟩, by rintro _ ⟨⟩, by rintro _ ⟨⟩, by rintro _ ⟨⟩⟩

theorem later (orderly : t.Orderly g) (later : g.Before g') : t.Orderly g' :=
  { orderly with
    issued := fun r mem =>
      let ⟨n, low, same⟩ := orderly.issued r mem
      ⟨n, Nat.lt_of_lt_of_le low later, same⟩ }

theorem of_same (orderly : t.Orderly g) (transactions : t'.transactions = t.transactions)
    (entries : t'.entries = t.entries)
    (wallets : ∀ r ∈ t.transactions,
      (t'.wallet? r.walletId).map (·.currency) = (t.wallet? r.walletId).map (·.currency)) :
    t'.Orderly g := by
  have logs : t'.entriesOf = t.entriesOf := by
    unfold entriesOf
    rw [entries]
  refine ⟨by rw [transactions]; exact orderly.single, by rw [transactions]; exact orderly.issued,
    by rw [transactions, entries]; exact orderly.known, fun r mem => ?_, fun r mem => ?_⟩
  · rw [transactions] at mem
    rw [wallets r mem]
    exact orderly.held r mem
  · rw [transactions] at mem
    rw [logs]
    exact orderly.standing r mem

theorem same_books (orderly : t.Orderly g) (books : t.SameBooks t') : t'.Orderly g :=
  orderly.of_same books.transactions books.entries fun _ _ =>
    currency_of_faces (by rw [books.wallets]) _

theorem opened (orderly : t.Orderly g) (free : t.wallet? w.id = none) :
    (t.withWallet w).Orderly g := by
  refine orderly.of_same rfl rfl fun r mem => ?_
  have held := orderly.held r mem
  have found := Rows.find?_append_new free r.walletId
  rw [wallet?] at held ⊢
  rw [withWallet, found, if_neg]
  · rfl
  · intro same
    rw [same] at free
    rw [wallet?] at free
    rw [free] at held
    cases held

theorem restated (orderly : t.Orderly g) (id : WalletId) (status : WalletStatus) (moment : Instant) :
    (t.withStatus id status moment).Orderly g := by
  have faces : (t.withStatus id status moment).wallets.map Wallet.face = t.wallets.map Wallet.face :=
    Rows.map_amend fun _ _ => rfl
  exact orderly.of_same rfl rfl fun _ _ => currency_of_faces faces _

theorem touched (orderly : t.Orderly g) (id : TransactionId) (moment : Instant) :
    (t.withTouched id moment).Orderly g := by
  have keys : (t.withTouched id moment).transactions.map Transaction.id =
      t.transactions.map Transaction.id := ids_withChanged fun _ => rfl
  have rows : ∀ r ∈ (t.withTouched id moment).transactions,
      ∃ old ∈ t.transactions, ∃ at_, r = { old with updatedAt := at_ } := by
    intro r mem
    rcases Rows.mem_amend.mp mem with ⟨old, _⟩ | ⟨old, there, _, same⟩
    · exact ⟨r, old, r.updatedAt, rfl⟩
    · exact ⟨old, there, moment, same⟩
  refine ⟨by rw [keys]; exact orderly.single, fun r mem => ?_, by rw [keys]; exact orderly.known,
    fun r mem => ?_, fun r mem => ?_⟩
  · obtain ⟨old, there, _, rfl⟩ := rows r mem
    exact orderly.issued old there
  · obtain ⟨old, there, _, rfl⟩ := rows r mem
    exact orderly.held old there
  · obtain ⟨old, there, at_, rfl⟩ := rows r mem
    exact (orderly.standing old there).touched at_

theorem fresh {id : TransactionId} (orderly : t.Orderly g) (distinct : g'.Distinct) (later : g.Before g')
    (given : Gauge.Gives Supply.transaction g g' id) :
    t.transaction? id = none ∧ t.entriesOf id = [] := by
  have new : id ∉ t.transactions.map Transaction.id := by
    intro mem
    obtain ⟨r, there, rfl⟩ := List.mem_map.mp mem
    obtain ⟨m, low, old⟩ := orderly.issued r there
    obtain ⟨n, above, below, new⟩ := given
    have same := distinct m n (Nat.lt_of_lt_of_le low later) below (old.symm.trans new)
    omega
  refine ⟨Rows.find?_none.mpr new, List.filter_eq_nil_iff.mpr fun e there mine => new ?_⟩
  have mine : e.transactionId = id := by simpa using mine
  exact mine ▸ orderly.known e there

theorem created (orderly : t.Orderly g) (distinct : g'.Distinct) (later : g.Before g')
    (created : Created g t g' r legs t') : t'.Orderly g' := by
  obtain ⟨free, silent⟩ := orderly.fresh distinct later created.issued
  have rows : t'.transactions = t.transactions ++ [r] := by
    rw [created.frame]
    exact Rows.put_new free
  have currency (id : WalletId) :
      (t'.wallet? id).map (·.currency) = (t.wallet? id).map (·.currency) :=
    currency_of_faces created.books.faces id
  refine ⟨?_, fun x mem => ?_, ?_, fun x mem => ?_, fun x mem => ?_⟩
  · rw [rows]
    exact Rows.nodup_append_new orderly.single free
  · rw [rows] at mem
    rcases List.mem_append.mp mem with old | new
    · obtain ⟨n, low, same⟩ := orderly.issued x old
      exact ⟨n, Nat.lt_of_lt_of_le low later, same⟩
    · rw [List.mem_singleton] at new
      subst new
      obtain ⟨n, _, low, same⟩ := created.issued
      exact ⟨n, low, same⟩
  · rw [rows, List.map_append]
    refine created.books.owners (List.mem_append_right _ (List.mem_singleton.mpr rfl)) ?_
    exact fun e old => List.mem_append_left _ (orderly.known e old)
  · rw [rows] at mem
    rw [currency]
    rcases List.mem_append.mp mem with old | new
    · exact orderly.held x old
    · rw [List.mem_singleton] at new
      subst new
      exact created.opening.held
  · rw [rows] at mem
    rcases List.mem_append.mp mem with old | new
    · have other : x.id ≠ r.id := by
        intro same
        have there := Rows.find?_of_mem orderly.single old
        rw [same] at there
        cases there.symm.trans free
      rw [created.books.entriesOf_other other]
      exact orderly.standing x old
    · rw [List.mem_singleton] at new
      subst new
      rw [created.books.entriesOf_same]
      change Standing x ((t.entriesOf x.id).map Entry.line ++ _)
      rw [silent]
      exact Standing.opened created.opening created.books

theorem decided (orderly : t.Orderly g) (stored : t.transaction? c.id = some r)
    (current : r.status = c.expected) (moves : c.expected.canBecome c.outcome.status = true)
    (resolves : Resolves t r c.provider c.outcome legs noted) (books : Books c.id t legs t')
    (moment : Instant) : (t'.withChanged c.id (c.update r noted).apply moment).Orderly g := by
  have number : r.id = c.id := Rows.key_of_find? stored
  have there : r ∈ t.transactions := Rows.mem_of_find? stored
  have keys : (t'.withChanged c.id (c.update r noted).apply moment).transactions.map Transaction.id =
      t.transactions.map Transaction.id := by
    rw [← books.transactions]
    exact ids_withChanged fun _ => rfl
  have rows : ∀ x ∈ (t'.withChanged c.id (c.update r noted).apply moment).transactions,
      (x ∈ t.transactions ∧ x.id ≠ c.id) ∨ x = r.Decided c noted moment := by
    intro x mem
    rcases Rows.mem_amend.mp mem with ⟨old, other⟩ | ⟨old, old', same, rfl⟩
    · rw [books.transactions] at old
      exact .inl ⟨old, other⟩
    · rw [books.transactions] at old'
      have found := Rows.find?_of_mem orderly.single old'
      rw [same] at found
      cases stored.symm.trans found
      exact .inr rfl
  have currency (id : WalletId) :
      (t'.wallet? id).map (·.currency) = (t.wallet? id).map (·.currency) :=
    currency_of_faces books.faces id
  refine ⟨by rw [keys]; exact orderly.single, fun x mem => ?_, ?_, fun x mem => ?_, fun x mem => ?_⟩
  · rcases rows x mem with ⟨old, _⟩ | rfl
    · exact orderly.issued x old
    · exact orderly.issued r there
  · rw [keys]
    exact books.owners (number ▸ List.mem_map_of_mem there) orderly.known
  · change (t'.wallet? x.walletId).map _ = _
    rw [currency]
    rcases rows x mem with ⟨old, _⟩ | rfl
    · exact orderly.held x old
    · exact orderly.held r there
  · change Standing x ((t'.entriesOf x.id).map Entry.line)
    rcases rows x mem with ⟨old, other⟩ | rfl
    · rw [books.entriesOf_other other]
      exact orderly.standing x old
    · change Standing _ ((t'.entriesOf r.id).map Entry.line)
      rw [number, books.entriesOf_same, ← number]
      rw [← current] at moves
      exact (orderly.standing r there).decided moves (orderly.held r there) resolves moment

theorem step (orderly : t.Orderly g) (distinct : g'.Distinct) (later : g.Before g')
    (step : Step g t g' t') : t'.Orderly g' := by
  cases step with
  | change change =>
    cases change.books with
    | same books => exact (orderly.same_books books).later later
    | opened _ _ _ _ _ free => exact (orderly.opened free).later later
    | restated => exact (orderly.restated _ _ _).later later
    | created before created after =>
      exact ((orderly.same_books before).created distinct later created).same_books after
    | touched => exact (orderly.touched _ _).later later
  | settle c settles =>
    cases settles with
    | touched => exact (orderly.touched _ _).later later
    | decided stored current moves resolves books =>
      exact (orderly.decided stored current moves resolves books _).later later

end Orderly
end Tables

def Cancels (account : Account) (lines : List Line) : Prop :=
  ∃ nothing, Decimal.sum ((lines.filter (·.account = account)).map (·.amount)) = .ok nothing ∧
    nothing.isZero = true

def Transaction.Told (r : Transaction) (lines : List Line) : Prop :=
  if r.kind.isExternal then
    ∃ provider total, r.total = .ok total ∧
      match r.status with
      | .pending | .unknown => lines = reservationLines r provider total
      | .failed =>
        (∃ settler, lines = reservationLines r provider total ++ compensationLines r settler total) ∧
          Cancels (.wallet r.walletId) lines ∧ Cancels .fees lines
      | .succeeded =>
        ∃ settler, lines = reservationLines r provider total ++ adjustmentLines r settler r.adjustment?
  else r.status = .succeeded

theorem compensated_wallet (r : Transaction) (provider settler : String) (total : Decimal) :
    Cancels (.wallet r.walletId)
      (reservationLines r provider total ++ compensationLines r settler total) := by
  have kept : ((reservationLines r provider total ++ compensationLines r settler total).filter
      (·.account = .wallet r.walletId)).map (·.amount) = [-total, total] := by
    unfold reservationLines compensationLines feeLines providerAccount
    by_cases due : 0 < r.fee <;> simp [due]
  unfold Cancels
  rw [kept]
  have sums := Decimal.Sums.pair (-total)
  rw [Decimal.neg_neg] at sums
  exact Decimal.sum_zero sums

theorem compensated_fees (r : Transaction) (provider settler : String) (total : Decimal) :
    Cancels .fees (reservationLines r provider total ++ compensationLines r settler total) := by
  unfold Cancels reservationLines compensationLines feeLines providerAccount
  by_cases due : 0 < r.fee
  · have sums := Decimal.sum_zero (.pair r.fee)
    simpa [due] using sums
  · refine ⟨0, ?_, rfl⟩
    simp [due]
    rfl

theorem Standing.told (standing : Standing r lines) : r.Told lines := by
  unfold Transaction.Told
  cases standing with
  | booked opening own same =>
    have kind : r.kind.isExternal = false := by rw [same]; exact own
    rw [kind, if_neg Bool.false_ne_true, same]
    exact opening.succeeded own
  | @reserved total provider reserves waits =>
    rw [if_pos reserves.kind]
    refine ⟨provider, total, reserves.sum, ?_⟩
    rcases waits with waits | waits <;> rw [waits]
  | @compensated total provider settler reserves failed =>
    rw [if_pos reserves.kind]
    refine ⟨provider, total, reserves.sum, ?_⟩
    rw [failed]
    exact ⟨⟨settler, rfl⟩, compensated_wallet .., compensated_fees ..⟩
  | @settled total provider settler reserves succeeded =>
    rw [if_pos reserves.kind]
    refine ⟨provider, total, reserves.sum, ?_⟩
    rw [succeeded]
    exact ⟨settler, rfl⟩

theorem World.Sound.orderly {w : World} (sound : w.Sound)
    (orderly : w.server.tables.Orderly w.server.gauge) (events : List Event)
    (distinct : (w.after events).server.gauge.Distinct) :
    (w.after events).server.tables.Orderly (w.after events).server.gauge := by
  have always := sound.induct (I := fun g t => g.Distinct → t.Orderly g)
    (fun _ _ _ _ later step before distinct => (before (distinct.before later)).step distinct later step)
    (fun _ => orderly) events
  exact always distinct

theorem World.run_orderly (events : List Event) (distinct : (World.run events).server.gauge.Distinct) :
    (World.run events).server.tables.Orderly (World.run events).server.gauge :=
  Sound.start.orderly (.empty _) events distinct

-- In every state of every run, the status of each record tells what was booked for it.
theorem World.run_told (events : List Event) (distinct : (World.run events).server.gauge.Distinct)
    (r : Transaction) (stored : r ∈ (World.run events).server.tables.transactions) :
    r.Told (((World.run events).server.tables.entriesOf r.id).map Entry.line) :=
  ((run_orderly events distinct).standing r stored).told

-- A payout of 10.00 for a fee of 0.50 from a wallet that holds 25.00, and what its provider
-- answers.
def World.payoutEvents (outcome : Outcome) : List Event :=
  depositEvents ++
    [.begin (.payOut ⟨⟨none, some "bank", none⟩, 1000⟩ ⟨none, Supply.wallet ⟨0⟩, .ngn,
        .ofCents 1000 (by decide), .ofCents 50 (by decide), "058", "1", "A", ""⟩),
      .advance 2, .advance 2, .reply 2 ⟨outcome, none⟩, .advance 2, .advance 2]

theorem World.run_told_refunded :
    ∃ r, (World.run (payoutEvents (.failed "closed" none))).server.tables.transactions.getLast? = some r ∧
      r.status = .failed ∧
      r.Told (((World.run (payoutEvents (.failed "closed" none))).server.tables.entriesOf r.id).map
        Entry.line) :=
  ⟨_, rfl, rfl, World.run_told _ (Gauge.distinct_of_le (by decide +kernel)) _
    (List.mem_of_getLast? rfl)⟩

end Treasury
