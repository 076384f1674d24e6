import Treasury.Proofs.Settlement.Standing

namespace Treasury

def Transaction.untimed (r : Transaction) : Transaction := { r with updatedAt := r.createdAt }

namespace Tables

variable {g g' : Gauge} {t t' t'' : Tables} {id : TransactionId} {c : SettleCall}

-- What stands of a transaction is the same before and after.
structure Rests (t : Tables) (id : TransactionId) (t' : Tables) : Prop where
  record : (t'.transaction? id).map Transaction.untimed = (t.transaction? id).map Transaction.untimed
  entries : t'.entriesOf id = t.entriesOf id

structure SameMoney (t t' : Tables) : Prop where
  wallets : t'.wallets = t.wallets
  entries : t'.entries = t.entries

namespace Rests

theorem of_same (transactions : t'.transactions = t.transactions) (entries : t'.entries = t.entries) :
    t.Rests id t' := by
  refine ⟨?_, ?_⟩
  · rw [transaction?, transactions]
    rfl
  · rw [entriesOf, entries]
    rfl

theorem trans (first : t.Rests id t') (second : t'.Rests id t'') : t.Rests id t'' :=
  ⟨second.record.trans first.record, second.entries.trans first.entries⟩

theorem changed (other : id ≠ number) {change : Transaction → Transaction}
    (keeps : ∀ r, (change r).id = r.id) : t.Rests id (t.withChanged number change moment) := by
  refine ⟨?_, rfl⟩
  rw [transaction?_withChanged keeps]
  cases stored : t.transaction? id with
  | none => rfl
  | some r =>
    have elsewhere : r.id ≠ number := Rows.key_of_find? stored ▸ other
    rw [Option.map_some, if_neg elsewhere]

theorem touched (number : TransactionId) : t.Rests id (t.withTouched number moment) := by
  refine ⟨?_, rfl⟩
  rw [withTouched, transaction?_withChanged fun _ => rfl, Option.map_map]
  refine congrArg (Option.map · _) (funext fun r => ?_)
  dsimp only [Function.comp]
  split <;> rfl

theorem booked (books : Books number t legs t') (other : id ≠ number) : t.Rests id t' := by
  refine ⟨?_, books.entriesOf_other other⟩
  rw [transaction?, books.transactions]
  rfl

theorem created (orderly : t.Orderly g) (distinct : g'.Distinct) (later : g.Before g')
    (created : Created g t g' new legs t') (stored : t.transaction? id = some r) : t.Rests id t' := by
  have free := (orderly.fresh distinct later created.issued).1
  have other : id ≠ new.id := by
    intro same
    rw [same, free] at stored
    cases stored
  have noted : t.Rests id (t.withTransaction new) := by
    refine ⟨?_, rfl⟩
    rw [transaction?, withTransaction, Rows.find?_put, if_neg (Ne.symm other)]
    rfl
  exact noted.trans (booked created.books other)

theorem change (orderly : t.Orderly g) (distinct : g'.Distinct) (later : g.Before g')
    (change : Change g t g' t') (stored : t.transaction? id = some r) : t.Rests id t' := by
  cases change.books with
  | same books => exact of_same books.transactions books.entries
  | opened => exact of_same rfl rfl
  | restated => exact of_same rfl rfl
  | created before created after =>
    have there := stored
    rw [transaction?, ← before.transactions] at there
    refine trans (of_same before.transactions before.entries) (trans ?_
      (of_same after.transactions after.entries))
    exact Rests.created (orderly.same_books before) distinct later created there
  | touched => exact touched _

theorem settled (settles : Settles c t answer (some t')) (other : id ≠ c.id) : t.Rests id t' := by
  cases settles with
  | touched => exact touched _
  | decided _ _ _ _ books => exact (booked books other).trans (changed other fun _ => rfl)

end Rests

theorem decided_record (stored : t.transaction? c.id = some r) (books : Books c.id t legs t') :
    (t'.withChanged c.id (c.update r noted).apply moment).transaction? c.id =
      some (r.Decided c noted moment) := by
  have keeps : ∀ x, ((c.update r noted).apply x).id = x.id := fun _ => rfl
  have kept : t'.transaction? c.id = some r := by
    rw [transaction?, books.transactions]
    exact stored
  rw [transaction?_withChanged keeps, kept, Option.map_some, if_pos (Rows.key_of_find? stored)]
  rfl

end Tables

namespace World

def status? (w : World) (id : TransactionId) : Option TransactionStatus :=
  (w.server.tables.transaction? id).map (·.status)

def Stands (w : World) (id : TransactionId) : Option Outcome → Prop
  | some outcome => w.status? id = some outcome.status
  | none => w.status? id = some .pending ∨ w.status? id = some .unknown

def Touches (w : World) (id : TransactionId) (e : Event) : Prop :=
  ∃ c, w.Calls c e ∧ c.id = id

-- A call that expects the status that stands and knows how the payment ended.
structure Strikes (w : World) (id : TransactionId) (c : SettleCall) (e : Event) : Prop where
  calls : w.Calls c e
  mine : c.id = id
  current : w.status? id = some c.expected
  decisive : c.outcome.status.isFinal = true

def Always (P : World → Event → Prop) : World → List Event → Prop
  | _, [] => True
  | w, e :: rest => P w e ∧ Always P (w.take e) rest

-- No fault and no overflow meets a call on the transaction.
structure Undisturbed (id : TransactionId) (w : World) (e : Event) : Prop where
  calm : w.Touches id e → w.server.Calm
  exact : ∀ c operation, w.Calls c e → c.id = id →
    (c.act w.server).1 ≠ .error (.broken (.overflow operation))

-- The status stays or moves as it may, and a call that comes too late is told what stands.
structure Regular (id : TransactionId) (w : World) (e : Event) : Prop where
  arcs : ∃ old new, w.status? id = some old ∧ (w.take e).status? id = some new ∧
    (new = old ∨ old.canBecome new = true)
  stale : ∀ (c : SettleCall) (r : Transaction) (i : Nat) (answer : Type)
    (next : Except (Halt TransactionError) Transaction → Flow answer),
    e = .advance i → w.activities[i]? = some ⟨c.flow.bind next⟩ → c.id = id →
    w.server.tables.transaction? id = some r → r.status ≠ c.expected →
    (w.take e).activities[i]? = some ⟨next (.ok r)⟩ ∧
      (w.take e).server.tables = w.server.tables

-- Nothing is booked for the transaction, and it still waits.
structure Passes (id : TransactionId) (w : World) (e : Event) : Prop where
  entries : (w.take e).server.tables.entriesOf id = w.server.tables.entriesOf id
  money : w.Touches id e → w.server.tables.SameMoney (w.take e).server.tables
  waits : (w.take e).Stands id none

-- Nothing changes of the transaction, and calls on it move no money.
structure Rests (id : TransactionId) (w : World) (e : Event) : Prop where
  record : w.server.tables.Rests id (w.take e).server.tables
  money : w.Touches id e → w.server.tables.SameMoney (w.take e).server.tables

-- The course of a payment over events, with what decided it.
inductive Course (id : TransactionId) : World → List Event → Option Outcome → Prop where
  | waits (waits : w.Stands id none) : Course id w [] none
  | passed (idle : ∀ c, ¬ w.Strikes id c e) (passes : w.Passes id e)
      (rest : Course id (w.take e) events outcome) : Course id w (e :: events) outcome
  | decided (c : SettleCall) (strikes : w.Strikes id c e)
      (taken : (w.take e).Stands id (some c.outcome))
      (rests : (w.take e).Always (Rests id) late) : Course id w (e :: late) (some c.outcome)

structure Ordered (w : World) : Prop where
  sound : w.Sound
  balanced : w.server.tables.Balanced
  orderly : w.server.tables.Orderly w.server.gauge

-- What one event does to a transaction that is there: nothing, or one call moves its status.
inductive Turn (id : TransactionId) (r : Transaction) (w : World) (e : Event) : Prop where
  | rests (rests : w.Rests id e) : Turn id r w e
  | moved (c : SettleCall) (calls : w.Calls c e) (mine : c.id = id) (current : r.status = c.expected)
      (moves : c.expected.canBecome c.outcome.status = true)
      (resolves : Resolves w.server.tables r c.provider c.outcome legs noted)
      (books : Books c.id w.server.tables legs t')
      (shape : (w.take e).server.tables = t'.withChanged c.id (c.update r noted).apply moment) :
      Turn id r w e

variable {w : World} {e : Event} {id : TransactionId} {r : Transaction}

namespace Ordered

theorem take (ordered : w.Ordered) (distinct : (w.take e).server.gauge.Distinct) :
    (w.take e).Ordered := by
  obtain ⟨later, step⟩ := ordered.sound.step e
  exact ⟨(ordered.sound.take e).1, ordered.balanced.step step, ordered.orderly.step distinct later step⟩

theorem turn (ordered : w.Ordered) (distinct : (w.take e).server.gauge.Distinct)
    (stored : w.server.tables.transaction? id = some r) : Turn id r w e := by
  by_cases touches : w.Touches id e
  · obtain ⟨c, calls, mine⟩ := touches
    rcases ordered.sound.called calls with same | ⟨answer, _, settles⟩
    · refine .rests ⟨.of_same (by rw [same]) (by rw [same]), fun _ => ⟨by rw [same], by rw [same]⟩⟩
    · generalize after : (w.take e).server.tables = t' at settles
      cases settles with
      | touched =>
        refine .rests ⟨by rw [after]; exact .touched _, fun _ => ?_⟩
        rw [after]
        exact ⟨rfl, rfl⟩
      | decided there current moves resolves books =>
        rw [mine, stored] at there
        cases there
        exact .moved c calls mine current moves resolves books after
  -- Without a call on it, only its identifier could be met, and that is neither new nor called.
  · refine .rests ⟨?_, fun touched => absurd touched touches⟩
    cases (ordered.sound.take e).2 with
    | change issued change => exact .change ordered.orderly distinct issued change stored
    | call c calls =>
      rcases ordered.sound.called calls with same | ⟨answer, _, settles⟩
      · exact .of_same (by rw [same]) (by rw [same])
      · exact .settled settles fun same => touches ⟨c, calls, same.symm⟩

-- On a calm server nothing but an overflow and a move that is barred stops a call on a payment.
theorem stopped (ordered : w.Ordered) (calm : w.server.Calm) {c : SettleCall}
    (stored : w.server.tables.transaction? c.id = some r) (external : r.kind.isExternal = true)
    (open_ : r.status = c.expected → c.expected.canBecome c.outcome.status = true)
    (result : (c.act w.server).1 = .error h) : ∃ operation, h = .broken (.overflow operation) := by
  have there := Rows.mem_of_find? stored
  cases ((c.act_ended ordered.sound.honest).refusal h result).2 calm with
  | missing unknown => cases stored.symm.trans unknown
  | barred found current _ barred =>
    cases stored.symm.trans found
    cases (open_ current).symm.trans barred
  | overflow => exact ⟨_, rfl⟩
  -- Each reason that is left would break what is kept along the run.
  | orphaned found unheld =>
    cases stored.symm.trans found
    have held := ordered.orderly.held r there
    rw [unheld] at held
    cases held
  | unsound _ held low =>
    exact ((ordered.balanced.backed (Rows.mem_of_find? held)).covered low).elim
  | worthless found sum low =>
    cases stored.symm.trans found
    obtain ⟨total, reserves⟩ := (ordered.orderly.standing r there).reserves external
    cases sum.symm.trans reserves.sum
    exact (reserves.positive low).elim

theorem answered (ordered : w.Ordered) (undisturbed : w.Undisturbed id e) {c : SettleCall}
    (calls : w.Calls c e) (mine : c.id = id) (stored : w.server.tables.transaction? id = some r)
    (external : r.kind.isExternal = true)
    (open_ : r.status = c.expected → c.expected.canBecome c.outcome.status = true) :
    ∃ answer, (c.act w.server).1 = .ok answer := by
  rcases result : (c.act w.server).1 with h | answer
  · have calm := undisturbed.calm ⟨c, calls, mine⟩
    subst mine
    obtain ⟨operation, rfl⟩ := ordered.stopped calm stored external open_ result
    exact (undisturbed.exact c operation calls rfl result).elim
  · exact ⟨answer, rfl⟩

end Ordered

theorem Rests.after (rests : w.Rests id e) (stored : w.server.tables.transaction? id = some r) :
    ∃ r', (w.take e).server.tables.transaction? id = some r' ∧ r'.untimed = r.untimed := by
  have record := rests.record.record
  rw [stored, Option.map_some, Option.map_eq_some_iff] at record
  exact record

theorem Turn.after (turn : Turn id r w e) (stored : w.server.tables.transaction? id = some r) :
    ∃ r', (w.take e).server.tables.transaction? id = some r' ∧ r'.kind = r.kind ∧
      (r'.status = r.status ∨ r.status.canBecome r'.status = true) := by
  cases turn with
  | rests rests =>
    obtain ⟨r', there, same⟩ := rests.after stored
    have kind := congrArg Transaction.kind same
    have status := congrArg Transaction.status same
    exact ⟨r', there, kind, .inl status⟩
  | @moved _ noted _ moment c _ mine current moves _ books shape =>
    subst mine
    refine ⟨r.Decided c noted moment, ?_, rfl, .inr ?_⟩
    · rw [shape]
      exact Tables.decided_record stored books
    · rw [current]
      exact moves

theorem status_of (stored : w.server.tables.transaction? id = some r) :
    w.status? id = some r.status := by
  rw [status?, stored]
  rfl

theorem stands_none (stored : w.server.tables.transaction? id = some r) :
    w.Stands id none ↔ r.status = .pending ∨ r.status = .unknown := by
  rw [Stands, status_of stored, Option.some.injEq, Option.some.injEq]

theorem canBecome_final {old new : TransactionStatus} (final : old.isFinal = true) :
    old.canBecome new = false := by
  cases old <;> first | rfl | cases final

theorem canBecome_of_waits {old new : TransactionStatus} (waits : old = .pending ∨ old = .unknown)
    (final : new.isFinal = true) : old.canBecome new = true := by
  rcases waits with rfl | rfl
  · cases new <;> first | rfl | cases final
  · exact final

namespace Ordered

theorem regular (ordered : w.Ordered) (distinct : (w.take e).server.gauge.Distinct)
    (undisturbed : w.Undisturbed id e) (stored : w.server.tables.transaction? id = some r)
    (external : r.kind.isExternal = true) : w.Regular id e := by
  refine ⟨?_, ?_⟩
  · obtain ⟨r', there, _, moves⟩ := (ordered.turn distinct stored).after stored
    exact ⟨r.status, r'.status, status_of stored, status_of there, moves⟩
  · rintro c r₁ i answer next rfl there mine found late
    cases stored.symm.trans found
    have calls : w.Calls c (.advance i) := ⟨i, answer, next, rfl, there⟩
    obtain ⟨answered, result⟩ := ordered.answered undisturbed calls mine stored external
      fun current => absurd current late
    obtain ⟨published, settles, tables⟩ := (c.act_ended ordered.sound.honest).answer answered result
    subst mine
    cases settles with
    | stale again =>
      cases stored.symm.trans again
      have within : i < w.activities.length := (List.getElem?_eq_some_iff.mp there).1
      rw [take_call there, result]
      exact ⟨List.getElem?_set_self within, tables⟩
    | touched again current => exact absurd (Option.some.inj (stored.symm.trans again) ▸ current) late
    | decided again current => exact absurd (Option.some.inj (stored.symm.trans again) ▸ current) late

-- The first call that can decide does.
theorem struck (ordered : w.Ordered) (undisturbed : w.Undisturbed id e)
    (strikes : w.Strikes id c e) (stored : w.server.tables.transaction? id = some r)
    (external : r.kind.isExternal = true) (waits : r.status = .pending ∨ r.status = .unknown) :
    ∃ r', (w.take e).server.tables.transaction? id = some r' ∧ r'.kind = r.kind ∧
      r'.status = c.outcome.status := by
  obtain ⟨calls, mine, current, decisive⟩ := strikes
  rw [status_of stored] at current
  have current := Option.some.inj current
  have moves := canBecome_of_waits (current ▸ waits) decisive
  obtain ⟨answer, result⟩ := ordered.answered undisturbed calls mine stored external fun _ => moves
  obtain ⟨published, settles, tables⟩ := (c.act_ended ordered.sound.honest).answer answer result
  rw [take_call_server calls, tables]
  subst mine
  cases settles with
  | stale again moved => exact absurd (Option.some.inj (stored.symm.trans again) ▸ current) moved
  | touched _ _ again =>
    rw [again, canBecome_final (again ▸ decisive)] at moves
    cases moves
  | @decided r₁ _ noted _ moment again _ _ _ books =>
    cases stored.symm.trans again
    exact ⟨r.Decided c noted moment, Tables.decided_record stored books, rfl, rfl⟩

theorem passed (ordered : w.Ordered) (distinct : (w.take e).server.gauge.Distinct)
    (idle : ∀ c, ¬ w.Strikes id c e) (stored : w.server.tables.transaction? id = some r)
    (waits : r.status = .pending ∨ r.status = .unknown) : w.Passes id e := by
  cases ordered.turn distinct stored with
  | rests rests =>
    obtain ⟨r', there, same⟩ := rests.after stored
    have status := congrArg Transaction.status same
    refine ⟨rests.record.entries, rests.money, (stands_none there).mpr ?_⟩
    exact waits.imp status.trans status.trans
  | @moved legs noted t' moment c calls mine current moves resolves books shape =>
    have open_ : c.outcome.status.isFinal = false := by
      rw [← Bool.not_eq_true]
      exact fun final => idle c ⟨calls, mine, by rw [status_of stored, current], final⟩
    subst mine
    have record : (w.take e).server.tables.transaction? c.id = some (r.Decided c noted moment) := by
      rw [shape]
      exact Tables.decided_record stored books
    obtain ⟨number, expected, provider, outcome⟩ := c
    cases resolves with
    | waiting =>
      cases books with
      | nil =>
        refine ⟨by rw [shape]; rfl, fun _ => ⟨by rw [shape]; rfl, by rw [shape]; rfl⟩, .inr ?_⟩
        rw [status?, record]
        rfl
    | accepted => cases open_
    | exact => cases open_
    | adjusted => cases open_
    | compensated => cases open_

theorem rested (ordered : w.Ordered) (distinct : (w.take e).server.gauge.Distinct)
    (stored : w.server.tables.transaction? id = some r) (final : r.status.isFinal = true) :
    w.Rests id e := by
  cases ordered.turn distinct stored with
  | rests rests => exact rests
  | moved c _ _ current moves =>
    rw [← current, canBecome_final final] at moves
    cases moves

theorem always_rests (ordered : w.Ordered) (events : List Event)
    (distinct : (w.after events).server.gauge.Distinct)
    (stored : w.server.tables.transaction? id = some r) (final : r.status.isFinal = true) :
    w.Always (Rests id) events := by
  induction events generalizing w r with
  | nil => trivial
  | cons e rest ih =>
    have next := distinct.before ((ordered.sound.take e).1.issued rest)
    have rests := ordered.rested next stored final
    obtain ⟨r', there, same⟩ := rests.after stored
    have status := congrArg Transaction.status same
    exact ⟨rests, ih (ordered.take next) distinct there (status ▸ final)⟩

theorem always_regular (ordered : w.Ordered) (events : List Event)
    (distinct : (w.after events).server.gauge.Distinct)
    (undisturbed : w.Always (Undisturbed id) events)
    (stored : w.server.tables.transaction? id = some r) (external : r.kind.isExternal = true) :
    w.Always (Regular id) events := by
  induction events generalizing w r with
  | nil => trivial
  | cons e rest ih =>
    have next := distinct.before ((ordered.sound.take e).1.issued rest)
    obtain ⟨r', there, kind, _⟩ := (ordered.turn next stored).after stored
    exact ⟨ordered.regular next undisturbed.1 stored external,
      ih (ordered.take next) distinct undisturbed.2 there (by rw [kind]; exact external)⟩

theorem course (ordered : w.Ordered) (events : List Event)
    (distinct : (w.after events).server.gauge.Distinct)
    (undisturbed : w.Always (Undisturbed id) events)
    (stored : w.server.tables.transaction? id = some r) (external : r.kind.isExternal = true)
    (waits : r.status = .pending ∨ r.status = .unknown) : ∃ outcome, Course id w events outcome := by
  induction events generalizing w r with
  | nil =>
    exact ⟨none, .waits ((stands_none stored).mpr waits)⟩
  | cons e rest ih =>
    have next := distinct.before ((ordered.sound.take e).1.issued rest)
    -- The first call that can decide ends the waiting, whichever activity it belongs to.
    by_cases struck : ∃ c, w.Strikes id c e
    · obtain ⟨c, strikes⟩ := struck
      obtain ⟨r', there, _, status⟩ := ordered.struck undisturbed.1 strikes stored external waits
      refine ⟨some c.outcome, .decided c strikes ?_ ?_⟩
      · exact (status_of there).trans (congrArg some status)
      · exact (ordered.take next).always_rests rest distinct there (by rw [status]; exact strikes.decisive)
    · have idle : ∀ c, ¬ w.Strikes id c e := fun c strikes => struck ⟨c, strikes⟩
      have passes := ordered.passed next idle stored waits
      obtain ⟨r', there, kind, _⟩ := (ordered.turn next stored).after stored
      obtain ⟨outcome, course⟩ := ih (ordered.take next) distinct undisturbed.2 there
        (by rw [kind]; exact external) ((stands_none there).mp passes.waits)
      exact ⟨outcome, .passed idle passes course⟩

end Ordered

theorem Always.status (rests : w.Always (Rests id) events) :
    (w.after events).status? id = w.status? id := by
  induction events generalizing w with
  | nil => rfl
  | cons e rest ih =>
    have record := congrArg (Option.map Transaction.status) rests.1.record.record
    rw [Option.map_map, Option.map_map] at record
    exact (ih rests.2).trans record

theorem Course.final (course : Course id w events outcome) : (w.after events).Stands id outcome := by
  induction course with
  | waits waits => exact waits
  | passed _ _ _ ih => exact ih
  | decided c _ taken rests => exact rests.status.trans taken

theorem Calls.act_eq {c₀ : SettleCall} (calls : w.Calls c (.advance i))
    (there : w.activities[i]? = some ⟨c₀.flow⟩) : c.act = c₀.act := by
  obtain ⟨_, answer, next, same, found⟩ := calls
  cases same
  rw [there, c₀.flow_eq, c.flow_eq] at found
  generalize c.act = act, c.answer = rest, c₀.act = act₀, c₀.answer = rest₀ at found ⊢
  cases found
  rfl

theorem Undisturbed.begin (operation : Operation) : w.Undisturbed id (.begin operation) := by
  refine ⟨?_, ?_⟩
  · rintro ⟨_, ⟨_, _, _, ⟨⟩, _⟩, _⟩
  · rintro _ _ ⟨_, _, _, ⟨⟩, _⟩

theorem Undisturbed.settle {c : SettleCall} (there : w.activities[i]? = some ⟨c.flow⟩)
    (calm : w.server.Calm) (answered : (c.act w.server).1 = .ok answer) :
    w.Undisturbed id (.advance i) := by
  refine ⟨fun _ => calm, fun c' operation calls _ broken => ?_⟩
  rw [calls.act_eq there, answered] at broken
  cases broken

-- A payout that waits, and three words on how it ended.
def waitingEvents : List Event := (payoutEvents (.unknown none)).take 7

def racingEvents (id : TransactionId) : List Event :=
  [.begin (.settle ⟨id, .pending, "bank", .unknown none⟩), .advance 3,
    .begin (.settle ⟨id, .unknown, "bank", .failed "closed" none⟩), .advance 4,
    .begin (.settle ⟨id, .unknown, "bank", .success "late" none⟩), .advance 5]

theorem run_ordered (events : List Event) (distinct : (run events).server.gauge.Distinct) :
    (run events).Ordered :=
  ⟨run_sound events, run_balanced events, run_orderly events distinct⟩

-- A payment is settled once. Whatever is called in whatever order, the first call that expects
-- what stands and knows the end decides, no other one books anything, and nobody changes it later.
theorem run_settled_once (before after : List Event)
    (distinct : (run (before ++ after)).server.gauge.Distinct) (r : Transaction)
    (stored : r ∈ (run before).server.tables.transactions) (external : r.kind.isExternal = true)
    (pending : r.status = .pending) (undisturbed : (run before).Always (Undisturbed r.id) after) :
    (run before).Always (Regular r.id) after ∧
      ∃ outcome, Course r.id (run before) after outcome ∧
        (run (before ++ after)).Stands r.id outcome := by
  rw [run_append] at distinct
  have ordered := run_ordered before (distinct.before ((run_sound before).issued after))
  have found := Rows.find?_of_mem ordered.orderly.single stored
  refine ⟨ordered.always_regular after distinct undisturbed found external, ?_⟩
  obtain ⟨outcome, course⟩ :=
    ordered.course after distinct undisturbed found external (.inl pending)
  refine ⟨outcome, course, ?_⟩
  rw [run_append]
  exact course.final

theorem run_settled_once_raced :
    ∃ r, (run waitingEvents).server.tables.transactions.getLast? = some r ∧
      (run (waitingEvents ++ racingEvents r.id)).status? r.id = some .failed ∧
      (run waitingEvents).Always (Regular r.id) (racingEvents r.id) ∧
      ∃ outcome, Course r.id (run waitingEvents) (racingEvents r.id) outcome ∧
        (run (waitingEvents ++ racingEvents r.id)).Stands r.id outcome := by
  have undisturbed : (run waitingEvents).Always (Undisturbed (Supply.transaction ⟨4⟩))
      (racingEvents (Supply.transaction ⟨4⟩)) :=
    ⟨.begin _, .settle rfl ⟨rfl, rfl, rfl⟩ rfl, .begin _, .settle rfl ⟨rfl, rfl, rfl⟩ rfl,
      .begin _, .settle rfl ⟨rfl, rfl, rfl⟩ rfl, trivial⟩
  exact ⟨_, rfl, rfl, run_settled_once waitingEvents (racingEvents (Supply.transaction ⟨4⟩))
    (Gauge.distinct_of_le (by decide +kernel)) _ (List.mem_of_getLast? rfl) rfl rfl undisturbed⟩

end World
end Treasury
