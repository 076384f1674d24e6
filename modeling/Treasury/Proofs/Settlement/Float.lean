import Treasury.Proofs.Settlement.Providers
import Treasury.Proofs.Settlement.Reversal
import Treasury.Proofs.Settlement.ZeroSum
import Mathlib.Data.List.Nodup

namespace Treasury

open External Transactions

-- What the provider holds for a payment, by how far it got.
def Transaction.owed (r : Transaction) : ℚ :=
  match r.status with
  | .pending | .unknown => r.amount.value
  | .succeeded => r.amount.value - (r.adjustment?.map Decimal.value).getD 0
  | .failed => 0

def Transaction.share (r : Transaction) (platform : Platform) (currency : Currency) : ℚ :=
  if r.platform = platform ∧ r.currency = currency then r.owed else 0

def Transaction.sentTo? (r : Transaction) : Option Account :=
  match r.details with
  | .transfer (.external reference _) _ _ _ => some (.external reference)
  | _ => none

def Transaction.sent (r : Transaction) (account : Account) (currency : Currency) : ℚ :=
  if r.sentTo? = some account ∧ r.currency = currency then r.amount.value else 0

def Line.share (account : Account) (currency : Currency) (l : Line) : ℚ :=
  if l.account = account ∧ l.currency = currency then l.amount.value else 0

def left (account : Account) (currency : Currency) (lines : List Line) : ℚ :=
  (lines.map (Line.share account currency)).sum

def Tables.heldOn (t : Tables) (account : Account) (currency : Currency) : ℚ :=
  left account currency (t.entries.map Entry.line)

section Left

variable {account : Account} {currency : Currency} {l : Line} {lines : List Line}

@[simp]
theorem left_nil : left account currency [] = 0 := rfl

@[simp]
theorem left_cons : left account currency (l :: lines) =
    l.share account currency + left account currency lines := by
  simp [left]

theorem left_append (first second : List Line) : left account currency (first ++ second) =
    left account currency first + left account currency second := by
  simp [left]

theorem Line.share_other (l : Line) (on : l.account = other) (apart : other ≠ account)
    (currency : Currency) : l.share account currency = 0 := by
  simp [share, on, apart]

end Left

theorem providerAccount_platform {platform platform' : Platform} (external : platform.isExternal = true)
    (external' : platform'.isExternal = true)
    (same : providerAccount platform provider = providerAccount platform' settler) :
    platform = platform' := by
  have texts := congrArg String.toList (Account.external.inj same)
  cases platform <;> cases platform' <;> simp_all [Platform.name, Platform.isExternal]

theorem deposit_apart {platform : Platform} (external : platform.isExternal = true) (source : String) :
    Account.external ("deposit:" ++ source) ≠ providerAccount platform provider := by
  intro same
  have texts := congrArg String.toList (Account.external.inj same)
  cases platform <;> simp_all [Platform.name, Platform.isExternal]

section Shares

variable {providers : Registry} {r : Transaction} {lines : List Line} {platform : Platform}
  {name : String} {currency : Currency}

theorem provider_share (external : platform.isExternal = true) (named : providers.Names platform name)
    (own : r.platform.isExternal = true) (registered : providers.Names r.platform provider)
    (amount settlement : Decimal) :
    Line.share (providerAccount platform name) currency
      ⟨providerAccount r.platform provider, r.currency, amount, settlement⟩ =
      if r.platform = platform ∧ r.currency = currency then amount.value else 0 := by
  by_cases here : r.platform = platform
  · subst here
    have same : provider = name := Option.some.inj (registered.symm.trans named)
    simp [Line.share, same]
  · rw [Line.share_other _ rfl, if_neg fun both => here both.1]
    exact fun same => here (providerAccount_platform own external same)

theorem left_fees (platform : Platform) (name : String) (currency : Currency) (fee : Decimal) :
    left (providerAccount platform name) currency (feeLines r.currency fee) = 0 := by
  unfold feeLines
  split <;> simp [Line.share, providerAccount]

theorem inside_share (l : Line) (inside : l.account.isOnPlatform = true) (platform : Platform)
    (name : String) (currency : Currency) : l.share (providerAccount platform name) currency = 0 := by
  apply l.share_other rfl
  intro same
  rw [same] at inside
  cases inside

theorem left_reservation (external : platform.isExternal = true) (named : providers.Names platform name)
    (own : r.platform.isExternal = true) (registered : providers.Names r.platform provider)
    (total : Decimal) : left (providerAccount platform name) currency (reservationLines r provider total) =
      if r.platform = platform ∧ r.currency = currency then r.amount.value else 0 := by
  rw [reservationLines, left_cons, left_cons, left_fees, inside_share _ rfl, zero_add,
    add_zero]
  exact provider_share external named own registered _ _

theorem left_compensation (external : platform.isExternal = true) (named : providers.Names platform name)
    (own : r.platform.isExternal = true) (registered : providers.Names r.platform provider)
    (total : Decimal) : left (providerAccount platform name) currency (compensationLines r provider total) =
      if r.platform = platform ∧ r.currency = currency then -r.amount.value else 0 := by
  have fees : left (providerAccount platform name) currency
      (if 0 < r.fee then [⟨.fees, r.currency, -r.fee, -r.fee⟩] else []) = 0 := by
    split <;> simp [Line.share, providerAccount]
  rw [compensationLines, left_cons, left_cons, fees, inside_share _ rfl, zero_add, add_zero,
    ← Decimal.value_neg]
  exact provider_share external named own registered _ _

theorem left_adjustment (external : platform.isExternal = true) (named : providers.Names platform name)
    (own : r.platform.isExternal = true) (x : Decimal) (registered : providers.Names r.platform provider) :
    left (providerAccount platform name) currency (adjustmentLines r provider (some x)) =
      if r.platform = platform ∧ r.currency = currency then -x.value else 0 := by
  rw [adjustmentLines, left_cons, left_cons, left_nil, inside_share _ rfl, zero_add, add_zero,
    ← Decimal.value_neg]
  exact provider_share external named own registered _ _

theorem Transaction.Under.registered (under : r.Under providers lines) (external : r.kind.isExternal = true)
    {l : Line} (mem : l ∈ lines) (on : l.account = providerAccount r.platform provider) :
    providers.Names r.platform provider := by
  obtain ⟨known, named, same⟩ := under external l mem (by rw [on]; rfl)
  rw [providerAccount_inj.mp (on.symm.trans same)]
  exact named

theorem Transaction.unsent (own : r.platform.isExternal = true) (account : Account) (currency : Currency) :
    r.sent account currency = 0 := by
  unfold Transaction.platform at own
  unfold sent sentTo?
  cases shape : r.details with
  | transfer =>
    rw [shape] at own
    cases own
  | _ => simp

theorem Opening.inside (opening : Opening t r legs) (own : r.kind.isExternal = false) :
    r.platform.isExternal = false := by
  cases opening with
  | deposit _ _ _ _ shape => rw [shape]; rfl
  | transfer _ _ _ _ _ _ _ _ _ shape => rw [shape]; rfl
  | payout _ _ shape => rw [shape]; rfl
  | reservation d placed _ _ _ shape =>
    have outside := placed.kind
    rw [shape] at own
    cases outside.symm.trans own

theorem left_deposit (external : platform.isExternal = true) (source : String) (w : Wallet)
    (amount : Decimal) :
    left (providerAccount platform name) currency ((depositLegs source w amount).map Leg.line) = 0 := by
  rw [depositLegs, List.map_cons, List.map_cons, List.map_nil, left_cons, left_cons, left_nil,
    Line.share_other _ rfl (deposit_apart external source), inside_share _ rfl, add_zero, add_zero]

theorem left_payout (w : Wallet) (amount : Decimal) :
    left (providerAccount platform name) currency ((payoutLegs w amount).map Leg.line) = 0 := by
  rw [payoutLegs, List.map_cons, List.map_cons, List.map_nil, left_cons, left_cons, left_nil,
    inside_share _ rfl, inside_share _ rfl, add_zero, add_zero]

theorem left_feeLegs (currency' : Currency) (fee : Decimal) :
    left (providerAccount platform name) currency ((feeLegs currency' fee).map Leg.line) = 0 := by
  unfold feeLegs
  split <;> simp [Line.share, Leg.line, providerAccount]

-- What is no payment books on the account of a provider only what a client sends there by its name.
theorem Opening.left (opening : Opening t r legs) (own : r.kind.isExternal = false)
    (external : platform.isExternal = true) (name : String) (currency : Currency) :
    Treasury.left (providerAccount platform name) currency (legs.map Leg.line) =
      r.sent (providerAccount platform name) currency := by
  cases opening with
  | deposit request stored same amount shape =>
    rw [left_deposit external, shape]
    rfl
  | payout request stored shape =>
    rw [left_payout, shape]
    rfl
  | transfer request c farEnd apart stored same far amount fee shape sum worth =>
    rw [transferLegs, List.map_cons, List.map_cons, left_cons, left_cons, left_feeLegs,
      inside_share _ rfl, zero_add, add_zero, Transaction.sent, Transaction.sentTo?]
    have details : r.details = .transfer request.destination c.rate c.amount c.currency := by
      rw [shape]
      rfl
    rw [details]
    cases farEnd with
    | wallet d =>
      obtain ⟨id, place, _⟩ := far.wallet
      rw [place, if_neg (by simp)]
      exact inside_share _ rfl _ _ _
    | account reference =>
      cases place : request.destination with
      | wallet id =>
        rw [place] at far
        cases far
      | external told =>
        rw [place] at far
        cases far
        rw [Line.share, shape]
        simp only [farLeg, Leg.line, transferDraft, Draft.toTransaction, Option.some.injEq]
        congr 1
  | reservation d placed _ _ _ shape =>
    have outside := placed.kind
    rw [shape] at own
    cases outside.symm.trans own

theorem Standing.left (standing : Standing r lines) (under : r.Under providers lines)
    (external : platform.isExternal = true) (named : providers.Names platform name)
    (currency : Currency) : Treasury.left (providerAccount platform name) currency lines =
      r.share platform currency + r.sent (providerAccount platform name) currency := by
  cases standing with
  | @booked _ r₀ _ opening own same =>
    have platform₀ : r.platform = r₀.platform := by
      rw [same]
      rfl
    have sent : r.sent (providerAccount platform name) currency =
        r₀.sent (providerAccount platform name) currency := by
      rw [same]
      rfl
    have other : r.platform ≠ platform := by
      intro here
      rw [← here, platform₀, opening.inside own] at external
      cases external
    rw [opening.left own external, sent, Transaction.share, if_neg fun both => other both.1, zero_add]
  | @reserved total provider reserves waits =>
    have registered : providers.Names r.platform provider :=
      under.registered reserves.kind (List.mem_cons_of_mem _ List.mem_cons_self) rfl
    rw [left_reservation external named reserves.platform registered, Transaction.unsent reserves.platform,
      add_zero, Transaction.share, Transaction.owed]
    rcases waits with waits | waits <;> rw [waits]
  | @compensated total provider settler reserves failed =>
    have first : providers.Names r.platform provider := under.registered reserves.kind
      (List.mem_append_left _ (List.mem_cons_of_mem _ List.mem_cons_self)) rfl
    have second : providers.Names r.platform settler := under.registered reserves.kind
      (List.mem_append_right _ (List.mem_cons_of_mem _ List.mem_cons_self)) rfl
    rw [left_append, left_reservation external named reserves.platform first,
      left_compensation external named reserves.platform second, Transaction.unsent reserves.platform,
      Transaction.share, Transaction.owed, failed]
    split <;> simp
  | @settled total provider settler reserves succeeded =>
    have first : providers.Names r.platform provider := under.registered reserves.kind
      (List.mem_append_left _ (List.mem_cons_of_mem _ List.mem_cons_self)) rfl
    rw [left_append, left_reservation external named reserves.platform first,
      Transaction.unsent reserves.platform, Transaction.share, Transaction.owed, succeeded]
    cases adjusted : r.adjustment? with
    | none => simp [adjustmentLines]
    | some x =>
      rw [adjusted] at under
      have second : providers.Names r.platform settler := under.registered reserves.kind
        (List.mem_append_right _ (List.mem_cons_of_mem _ List.mem_cons_self)) rfl
      rw [left_adjustment external named reserves.platform x second]
      split <;> simp [sub_eq_add_neg]

end Shares

section Grouping

variable {account : Account} {currency : Currency}

theorem sum_single {ids : List TransactionId} {id : TransactionId} (single : ids.Nodup) (mem : id ∈ ids)
    (amount : ℚ) : (ids.map fun i => if i = id then amount else 0).sum = amount := by
  rw [List.sum_map_ite_eq, List.count_eq_one_of_mem single mem]
  simp

theorem left_grouped {ids : List TransactionId} {entries : List Entry} (single : ids.Nodup)
    (known : ∀ e ∈ entries, e.transactionId ∈ ids) :
    left account currency (entries.map Entry.line) = (ids.map fun id =>
      left account currency ((entries.filter fun e => e.transactionId = id).map Entry.line)).sum := by
  induction entries with
  | nil => simp
  | cons e rest ih =>
    have apart (id : TransactionId) :
        left account currency (((e :: rest).filter fun e => e.transactionId = id).map Entry.line) =
          (if id = e.transactionId then e.line.share account currency else 0) +
            left account currency ((rest.filter fun e => e.transactionId = id).map Entry.line) := by
      by_cases mine : e.transactionId = id
      · simp [mine]
      · simp [mine, Ne.symm mine]
    simp only [apart, List.sum_map_add]
    rw [List.map_cons, left_cons, ih fun e mem => known e (List.mem_cons_of_mem _ mem),
      sum_single single (known e List.mem_cons_self)]

theorem Tables.Orderly.heldOn {t : Tables} (orderly : t.Orderly g) :
    t.heldOn account currency = (t.transactions.map fun r =>
      left account currency ((t.entriesOf r.id).map Entry.line)).sum := by
  rw [Tables.heldOn, left_grouped orderly.single orderly.known, List.map_map]
  rfl

end Grouping

namespace World

-- In every state of every run with one registry, the account of a registered provider holds the
-- payments on its platform as far as they got, and besides them only what transfers sent there by
-- the account's own name.
theorem run_mirrored (providers : Registry) (events : List Event)
    (distinct : (run events).server.gauge.Distinct) (fixed : Fixed providers events)
    (platform : Platform) (external : platform.isExternal = true) (name : String)
    (named : providers.Names platform name) (currency : Currency) :
    (run events).server.tables.heldOn (providerAccount platform name) currency =
      ((run events).server.tables.transactions.map fun r => r.share platform currency).sum +
        ((run events).server.tables.transactions.map fun r =>
          r.sent (providerAccount platform name) currency).sum := by
  have orderly := run_orderly events distinct
  have under := run_under providers events distinct fixed
  have each : ∀ r ∈ (run events).server.tables.transactions,
      left (providerAccount platform name) currency
        (((run events).server.tables.entriesOf r.id).map Entry.line) =
      r.share platform currency + r.sent (providerAccount platform name) currency := by
    intro r stored
    have found := Rows.find?_of_mem orderly.single stored
    exact (orderly.standing r stored).left (under r.id r found) external named currency
  rw [orderly.heldOn, List.map_congr_left each, List.sum_map_add]

theorem run_mirrored_cheaper :
    (run cheaperEvents).server.tables.heldOn (providerAccount .fiat "bank") .ngn =
      ((run cheaperEvents).server.tables.transactions.map fun r => r.share .fiat .ngn).sum +
        ((run cheaperEvents).server.tables.transactions.map fun r =>
          r.sent (providerAccount .fiat "bank") .ngn).sum := by
  refine run_mirrored ⟨none, some "bank", none⟩ cheaperEvents
    (Gauge.distinct_of_le (by decide +kernel)) ⟨?_, ?_⟩ .fiat rfl "bank" rfl .ngn
  · intro operation mem
    simp [begun, cheaperEvents, payoutEvents, depositEvents, Event.operation?] at mem
    rcases mem with rfl | rfl | rfl
    · exact fun _ _ nobody => nobody.elim
    · exact fun _ _ nobody => nobody.elim
    · exact fun _ _ named => named
  · intro c mem
    simp [begun, cheaperEvents, payoutEvents, depositEvents, Event.operation?] at mem

-- A client sends 8.00 to an account outside, and calls it what the provider's account is called.
def namesakeEvents : List Event :=
  depositEvents ++
    [.begin (.transfer ⟨none, Supply.wallet ⟨0⟩, .external "fiat:bank" none, .ngn,
        .ofCents 800 (by decide), 0, ""⟩), .advance 2]

theorem namesake_counted : ¬ ∀ (providers : Registry) (events : List Event),
    (run events).server.gauge.Distinct → Fixed providers events →
    ∀ (platform : Platform) (name : String) (currency : Currency), platform.isExternal = true →
      providers.Names platform name →
      (run events).server.tables.heldOn (providerAccount platform name) currency =
        ((run events).server.tables.transactions.map fun r => r.share platform currency).sum := by
  intro always
  have fixed : Fixed ⟨none, some "bank", none⟩ namesakeEvents := by
    refine ⟨?_, ?_⟩
    · intro operation mem
      simp [begun, namesakeEvents, depositEvents, Event.operation?] at mem
      rcases mem with rfl | rfl | rfl <;> exact fun _ _ nobody => nobody.elim
    · intro c mem
      simp [begun, namesakeEvents, depositEvents, Event.operation?] at mem
  have mirrored := always ⟨none, some "bank", none⟩ namesakeEvents
    (Gauge.distinct_of_le (by decide +kernel)) fixed .fiat "bank" .ngn rfl rfl
  have held : (run namesakeEvents).server.tables.heldOn (providerAccount .fiat "bank") .ngn = 8 := by
    decide +kernel
  have shares : ((run namesakeEvents).server.tables.transactions.map fun r =>
      r.share .fiat .ngn).sum = 0 := by
    decide +kernel
  rw [held, shares] at mirrored
  norm_num at mirrored

end World
end Treasury
