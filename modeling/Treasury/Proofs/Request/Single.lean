import Mathlib.Data.List.Nodup
import Treasury.Proofs.World.Later
import Treasury.Proofs.Request.Ordering
import Treasury.Proofs.Request.Conflict

namespace Treasury

theorem Tables.Keyed.few {t : Tables} (keyed : t.Keyed)
    (single : (t.transactions.map Transaction.id).Nodup) (k : String) :
    (t.transactions.filter (·.idempotencyKey = some k)).length ≤ 1 := by
  have apart := (List.Nodup.of_map Transaction.id single).filter fun r => r.idempotencyKey = some k
  have carries (r : Transaction) (mem : r ∈ t.transactions.filter (·.idempotencyKey = some k)) :
      r ∈ t.transactions ∧ r.idempotencyKey = some k := by simpa using mem
  cases rows : t.transactions.filter (·.idempotencyKey = some k) with
  | nil => exact Nat.zero_le _
  | cons r rest =>
    cases rest with
    | nil => exact Nat.le_refl _
    | cons r' rest =>
      rw [rows] at apart carries
      obtain ⟨there, key⟩ := carries r (by simp)
      obtain ⟨there', key'⟩ := carries r' (by simp)
      simp [keyed k r there r' there' key key'] at apart

def Operation.key? : Operation → Option String
  | .deposit r => r.idempotencyKey
  | .transfer r => r.idempotencyKey
  | .purchaseGiftCard _ r => r.idempotencyKey
  | .payOut _ r => r.idempotencyKey
  | .sendCrypto _ r => r.idempotencyKey
  | _ => none

theorem Request.operation_key (q : Request) (g : Transactions.Gateway) :
    (q.operation g).key? = q.key := by
  cases q <;> rfl

theorem Operation.request_of_key {operation : Operation} (keyed : operation.key? = some k) :
    ∃ (q : Request) (g : Transactions.Gateway), operation = q.operation g ∧ q.key = some k := by
  cases operation with
  | deposit r => exact ⟨.deposit r, ⟨⟨none, none, none⟩, 0⟩, rfl, keyed⟩
  | transfer r => exact ⟨.transfer r, ⟨⟨none, none, none⟩, 0⟩, rfl, keyed⟩
  | purchaseGiftCard g r => exact ⟨.giftCard r, g, rfl, keyed⟩
  | payOut g r => exact ⟨.payout r, g, rfl, keyed⟩
  | sendCrypto g r => exact ⟨.send r, g, rfl, keyed⟩
  | _ => cases keyed

namespace World

def Carries (events : List Event) (k : String) (i : Nat) : Prop :=
  (begun events)[i]?.bind Operation.key? = some k

instance (events : List Event) (k : String) (i : Nat) : Decidable (Carries events k i) :=
  inferInstanceAs (Decidable (_ = _))

-- An act of the activity brought the row that carries the key.
def Inserted (events : List Event) (k : String) (i : Nat) : Prop :=
  ∃ early e late, events = early ++ e :: late ∧ e.activity? = some i ∧
    (run early).server.tables.transactionOf? k = none ∧
    ((run early).take e).server.tables.transactionOf? k ≠ none

-- An act of the activity changed the entries.
def Booked (events : List Event) (i : Nat) : Prop :=
  ∃ early e late, events = early ++ e :: late ∧ e.activity? = some i ∧
    ((run early).take e).server.tables.entries ≠ (run early).server.tables.entries

-- An order on behalf of the key: from a request that carries it, or for the transaction under it.
def OnBehalf (events : List Event) (k : String) (order : Nat × Call) : Prop :=
  Carries events k order.1 ∨
    ((run events).server.tables.transactionOf? k).map (·.id) = some order.2.correlation

instance (events : List Event) (k : String) (order : Nat × Call) :
    Decidable (OnBehalf events k order) := inferInstanceAs (Decidable (_ ∨ _))

-- The one transaction of a key.
structure Single (events : List Event) (k : String) : Prop where
  row : ((run events).server.tables.transactions.filter (·.idempotencyKey = some k)).length ≤ 1
  stays : ∀ early late r, events = early ++ late →
    (run early).server.tables.transactionOf? k = some r →
    ∃ r', (run events).server.tables.transactionOf? k = some r' ∧ r'.id = r.id ∧
      r'.kind = r.kind ∧ r'.walletId = r.walletId
  inserter : ∀ i j, Inserted events k i → Inserted events k j → i = j
  books : ∀ i, Carries events k i → Booked events i → Inserted events k i
  orders : ((start.orders events).filter (OnBehalf events k)).length ≤ 1

variable {events : List Event} {e : Event} {i j : Nat} {k : String} {w : World}

-- The activity has written the transaction down.
inductive Wrote (events : List Event) (i : Nat) (key : Option String) (id : TransactionId) : Prop where
  | placed (early : List Event) (e : Event) (late : List Event) (split : events = early ++ e :: late)
      (mine : e.activity? = some i)
      (created : Created (run early).server.gauge (run early).server.tables
        ((run early).take e).server.gauge r legs ((run early).take e).server.tables)
      (number : r.id = id) (own : r.idempotencyKey = key) : Wrote events i key id

theorem Wrote.snoc {key : Option String} {id : TransactionId} (wrote : Wrote events i key id) (e : Event) :
    Wrote (events ++ [e]) i key id := by
  cases wrote with
  | placed early e' late split mine created number own =>
    refine .placed early e' (late ++ [e]) ?_ mine created number own
    rw [split, List.append_assoc, List.cons_append]

theorem Booked.snoc (booked : Booked (events ++ [e]) i) :
    Booked events i ∨ e.activity? = some i ∧
      ((run events).take e).server.tables.entries ≠ (run events).server.tables.entries := by
  obtain ⟨early, e', late, split, mine, changed⟩ := booked
  rcases List.eq_nil_or_concat late with last | ⟨rest, last, shape⟩
  · rw [last] at split
    obtain ⟨first, second⟩ := List.append_inj' split rfl
    cases second
    subst first
    exact .inr ⟨mine, changed⟩
  · rw [shape, List.concat_eq_append, ← List.cons_append, ← List.append_assoc] at split
    obtain ⟨first, _⟩ := List.append_inj' split rfl
    exact .inl ⟨early, e', rest, first, mine, changed⟩

-- What a request has done so far, by its stage.
inductive Past (events : List Event) (i : Nat) (key : Option String) (flow : Flow α) : Stage → Prop where
  | seeking (idle : ¬ Booked events i) (silent : ordersOf events i = []) :
      Past events i key flow .seeking
  | placed {id : TransactionId} (wrote : Wrote events i key id)
      (given : ordersOf events i = flow.order?.toList) : Past events i key flow (.placed id)
  | spent (wrote : Wrote events i key order.correlation) (given : ordersOf events i = [order]) :
      Past events i key flow .spent

namespace Past

variable {key : Option String} {flow flow' : Flow α} {σ : Stage} {P : α → Stage → Prop}

theorem waits (past : Past events i key flow σ) (elsewhere : (run events).goes? e ≠ some i)
    (still : e.activity? = some i → ((run events).take e).server = (run events).server) :
    Past (events ++ [e]) i key flow σ := by
  have same := ordersOf_silent elsewhere
  cases past with
  | seeking idle silent =>
    refine .seeking (fun booked => ?_) (same.trans silent)
    rcases booked.snoc with before | ⟨mine, changed⟩
    · exact idle before
    · exact changed (by rw [still mine])
  | placed wrote given => exact .placed (wrote.snoc e) (same.trans given)
  | spent wrote given => exact .spent (wrote.snoc e) (same.trans given)

theorem goes (past : Past events i key flow σ) (quiet : flow.order? = none)
    (obeys : flow'.Obeys key σ P)
    (given : (run events).order? e = flow'.order?.map fun order => (i, order))
    (still : σ = .seeking →
      ((run events).take e).server.tables.entries = (run events).server.tables.entries) :
    Past (events ++ [e]) i key flow' σ := by
  have orders := ordersOf_given given
  cases past with
  | seeking idle silent =>
    rw [silent, obeys.silent nofun] at orders
    refine .seeking (fun booked => ?_) orders
    rcases booked.snoc with before | ⟨_, changed⟩
    · exact idle before
    · exact changed (still rfl)
  | placed wrote before =>
    rw [before, quiet] at orders
    exact .placed (wrote.snoc e) orders
  | spent wrote before =>
    rw [before, obeys.silent nofun] at orders
    exact .spent (wrote.snoc e) orders

theorem acts {act : Server → β × Server} {next : β → Flow α}
    (past : Past events i key (.step act next) σ) (obeys : (Flow.step act next).Obeys key σ P)
    (mine : e.activity? = some i)
    (taken : (run events).take e = ⟨(act (run events).server).2,
      (run events).activities.set i ⟨next (act (run events).server).1⟩⟩)
    (given : (run events).order? e =
      (next (act (run events).server).1).order?.map fun order => (i, order)) :
    ∃ σ', (next (act (run events).server).1).Obeys key σ' P ∧
      Past (events ++ [e]) i key (next (act (run events).server).1) σ' := by
  obtain ⟨σ', acts, rest⟩ := obeys (run events).server (run_sound events).honest
  refine ⟨σ', rest, ?_⟩
  cases acts with
  | looks same => exact past.goes rfl rest given fun _ => by rw [taken, same]
  | @places r legs created own =>
    cases past with
    | seeking idle silent =>
      have orders := ordersOf_given given
      rw [silent] at orders
      have there : Created (run events).server.gauge (run events).server.tables
          ((run events).take e).server.gauge r legs ((run events).take e).server.tables := by
        rw [taken]
        exact created
      exact .placed (.placed events e [] rfl mine there rfl own) orders
  | spent => exact past.goes rfl rest given nofun

theorem hears {question : Question β} {next : β → Flow α} {answer : β}
    (past : Past events i key (.ask question next) σ)
    (obeys : (Flow.ask question next).Obeys key σ P)
    (taken : (run events).take e =
      { run events with activities := (run events).activities.set i ⟨next answer⟩ })
    (given : (run events).order? e = (next answer).order?.map fun order => (i, order)) :
    ∃ σ', (next answer).Obeys key σ' P ∧ Past (events ++ [e]) i key (next answer) σ' := by
  obtain ⟨σ', asks, rest⟩ := obeys
  refine ⟨σ', rest answer, ?_⟩
  cases asks with
  | @orders provider order id =>
    cases past with
    | placed wrote before =>
      have orders := ordersOf_given given
      rw [before, (rest answer).silent nofun] at orders
      have wrote : Wrote (events ++ [e]) i key (Call.order provider id order).correlation :=
        wrote.snoc e
      exact .spent wrote orders
  | other quiet => exact past.goes quiet (rest answer) given fun _ => by rw [taken]

end Past

theorem Past.begins {key : Option String} {flow : Flow α} (first : (begun events).length = i)
    (given : (run events).order? e = none) (silent : e.activity? = none) :
    Past (events ++ [e]) i key flow .seeking := by
  have none : (run events).order? e = (Option.none : Option Call).map fun order => (i, order) := given
  have nothing := ordersOf_given none
  rw [ordersOf_unbegun (Nat.le_of_eq first)] at nothing
  refine .seeking (fun booked => ?_) nothing
  rcases booked.snoc with before | ⟨mine, _⟩
  · obtain ⟨early, e', late, split, mine, changed⟩ := before
    have unbegun : (run early).activities.length ≤ i := by
      rw [← begun_length, ← first, split, begun, begun, List.filterMap_append, List.length_append]
      exact Nat.le_add_right _ _
    exact changed (by rw [take_unbegun unbegun mine])
  · cases silent.symm.trans mine

-- What a request that has begun did in the run, and what it may still do.
theorem run_request (events : List Event) (i : Nat) (q : Request) (g : Transactions.Gateway)
    (there : (begun events)[i]? = some (q.operation g)) :
    ∃ (flow : Flow (Except (Halt TransactionError) Transaction)) (σ : Stage),
      Past events i q.key flow σ ∧ flow.Obeys q.key σ fun _ _ => True := by
  have stays := follow (I := fun events a =>
    ∃ (flow : Flow (Except (Halt TransactionError) Transaction)) (σ : Stage), a = ⟨flow⟩ ∧
      Past events i q.key flow σ ∧ flow.Obeys q.key σ fun _ _ => True) i (q.operation g) ?_ ?_ events there
  · obtain ⟨_, _, flow, σ, _, past, obeys⟩ := stays
    exact ⟨flow, σ, past, obeys⟩
  · intro events first
    rw [q.operation_activity g]
    refine ⟨(q.task g).run, .seeking, rfl, .begins first ?_ rfl, ?_⟩
    · rw [order?_begin, q.operation_activity g, Flow.Obeys.silent (q.orders g) nofun]
      rfl
    · exact (q.orders g).mono fun _ _ _ => trivial
  · intro events e a a' running turned kept
    obtain ⟨flow, σ, shape, past, obeys⟩ := kept
    cases turned with
    | waits elsewhere still => exact ⟨flow, σ, shape, past.waits elsewhere still, obeys⟩
    | acts mine taken given =>
      cases shape
      obtain ⟨σ', rest, past⟩ := past.acts obeys mine taken given
      exact ⟨_, σ', rfl, past, rest⟩
    | hears answer taken given =>
      cases shape
      obtain ⟨σ', rest, past⟩ := past.hears obeys taken given
      exact ⟨_, σ', rfl, past, rest⟩

theorem Wrote.inserted {id : TransactionId} (wrote : Wrote events i (some k) id) :
    Inserted events k i := by
  cases wrote with
  | placed early e late split mine created number own =>
    refine ⟨early, e, late, split, mine, created.free k own, ?_⟩
    rw [created.keyed own]
    nofun

theorem Ordered.grows (ordered : w.Ordered) (events : List Event)
    (distinct : (w.after events).server.gauge.Distinct) :
    w.server.tables.Later (w.after events).server.tables := by
  induction events generalizing w with
  | nil => exact .refl _
  | cons e rest ih =>
    have next := distinct.before ((ordered.sound.take e).1.issued rest)
    obtain ⟨later, step⟩ := ordered.sound.step e
    exact (Tables.Later.step ordered.orderly next later step).trans (ih (ordered.take next) distinct)

theorem run_grows (early late : List Event) (distinct : (run (early ++ late)).server.gauge.Distinct) :
    (run early).server.tables.Later (run (early ++ late)).server.tables := by
  rw [run_append] at distinct ⊢
  exact (run_ordered early (distinct.before ((run_sound early).issued late))).grows late distinct

theorem Turn.key {r : Transaction} {id : TransactionId} (turn : Turn id r w e)
    (stored : w.server.tables.transaction? id = some r) :
    ∃ r', (w.take e).server.tables.transaction? id = some r' ∧
      r'.idempotencyKey = r.idempotencyKey := by
  cases turn with
  | rests rests =>
    obtain ⟨r', there, same⟩ := rests.after stored
    have key := congrArg Transaction.idempotencyKey same
    exact ⟨r', there, key⟩
  | @moved _ noted _ moment c _ mine _ _ _ books shape =>
    subst mine
    refine ⟨r.Decided c noted moment, ?_, rfl⟩
    rw [shape]
    exact Tables.decided_record stored books

theorem Ordered.key {r : Transaction} {id : TransactionId} (ordered : w.Ordered)
    (events : List Event) (distinct : (w.after events).server.gauge.Distinct)
    (stored : w.server.tables.transaction? id = some r) :
    ∃ r', (w.after events).server.tables.transaction? id = some r' ∧
      r'.idempotencyKey = r.idempotencyKey := by
  induction events generalizing w r with
  | nil => exact ⟨r, stored, rfl⟩
  | cons e rest ih =>
    have next := distinct.before ((ordered.sound.take e).1.issued rest)
    obtain ⟨r₁, there, key⟩ := (ordered.turn next stored).key stored
    obtain ⟨r', last, key'⟩ := ih (ordered.take next) distinct there
    exact ⟨r', last, key'.trans key⟩

theorem Wrote.key {key : Option String} {id : TransactionId} (wrote : Wrote events i key id)
    (distinct : (run events).server.gauge.Distinct) :
    ∃ r, (run events).server.tables.transaction? id = some r ∧ r.idempotencyKey = key := by
  cases wrote with
  | @placed r _ early e late split _ created number own =>
    subst number
    have stored : (run (early ++ [e])).server.tables.transaction? r.id = some r := by
      rw [run_snoc, created.frame, Tables.transaction?]
      exact (Rows.find?_put r.id).trans (if_pos rfl)
    rw [split, List.append_cons, run_append] at distinct ⊢
    have ordered := run_ordered (early ++ [e]) (distinct.before ((run_sound _).issued late))
    obtain ⟨r', there, same⟩ := ordered.key late distinct stored
    exact ⟨r', there, same.trans own⟩

theorem inserted_first {early mid late : List Event} {e : Event}
    (distinct : (run (early ++ e :: mid ++ late)).server.gauge.Distinct)
    (brought : ((run early).take e).server.tables.transactionOf? k ≠ none) :
    (run (early ++ e :: mid)).server.tables.transactionOf? k ≠ none := by
  rw [run_append] at distinct
  have distinct := distinct.before ((run_sound (early ++ e :: mid)).issued late)
  rw [← run_snoc] at brought
  obtain ⟨r, stored⟩ := Option.ne_none_iff_exists'.mp brought
  rw [List.append_cons] at distinct ⊢
  obtain ⟨r', there, _⟩ := (run_grows (early ++ [e]) mid distinct).keys k r stored
  rw [there]
  nofun

theorem Inserted.unique (distinct : (run events).server.gauge.Distinct)
    (one : Inserted events k i) (other : Inserted events k j) : i = j := by
  obtain ⟨early, e, late, split, mine, free, brought⟩ := one
  obtain ⟨early', e', late', split', mine', free', brought'⟩ := other
  rcases List.append_eq_append_iff.mp (split.symm.trans split') with ⟨mid, before, after⟩ | ⟨mid, before, after⟩
  · cases mid with
    | nil =>
      cases after
      exact Option.some.inj (mine.symm.trans mine')
    | cons x rest =>
      cases after
      subst before
      rw [split'] at distinct
      exact absurd free' (inserted_first distinct brought)
  · cases mid with
    | nil =>
      cases after
      exact Option.some.inj (mine.symm.trans mine')
    | cons x rest =>
      cases after
      subst before
      rw [split] at distinct
      exact absurd free (inserted_first distinct brought')

-- Whoever orders is a request, has written down what it orders and orders nothing else.
theorem order_wrote {order : Nat × Call} (given : order ∈ start.orders events) :
    ∃ (q : Request) (g : Transactions.Gateway),
      (begun events)[order.1]? = some (q.operation g) ∧
      Wrote events order.1 q.key order.2.correlation ∧ ordersOf events order.1 = [order.2] := by
  obtain ⟨operation, there⟩ : ∃ operation, (begun events)[order.1]? = some operation :=
    ⟨_, List.getElem?_eq_getElem (orders_begun given)⟩
  have listed : order.2 ∈ ordersOf events order.1 :=
    List.mem_map.mpr ⟨order, List.mem_filter.mpr ⟨given, by simp⟩, rfl⟩
  rcases operation.quiet with ⟨q, g, shape⟩ | quiet
  · rw [shape] at there
    refine ⟨q, g, there, ?_⟩
    obtain ⟨flow, σ, past, obeys⟩ := run_request events order.1 q g there
    cases past with
    | seeking idle silent => simp [silent] at listed
    | placed wrote waits =>
      rw [waits, Option.mem_toList] at listed
      cases obeys.order? listed
      exact ⟨wrote, by rw [waits, listed]; rfl⟩
    | spent wrote waits =>
      rw [waits, List.mem_singleton] at listed
      rw [listed]
      exact ⟨wrote, waits⟩
  · rw [ordersOf_quiet order.1 quiet there] at listed
    cases listed

theorem OnBehalf.inserted {order : Nat × Call} (behalf : OnBehalf events k order)
    (given : order ∈ start.orders events) (distinct : (run events).server.gauge.Distinct) :
    Inserted events k order.1 := by
  obtain ⟨q, g, there, wrote, _⟩ := order_wrote given
  have key : q.key = some k := by
    rcases behalf with carries | named
    · rw [Carries, there, Option.bind_some, q.operation_key] at carries
      exact carries
    · obtain ⟨r, stored, own⟩ := wrote.key distinct
      obtain ⟨r', held, number⟩ := Option.map_eq_some_iff.mp named
      have mem : r' ∈ (run events).server.tables.transactions := List.mem_of_find?_eq_some held
      have found := Rows.find?_of_mem (run_orderly events distinct).single mem
      rw [number] at found
      cases found.symm.trans stored
      have key : r.idempotencyKey = some k := by simpa using List.find?_some held
      exact own.symm.trans key
  rw [key] at wrote
  exact wrote.inserted

-- However many requests carry a key, and whatever goes on besides, there is one transaction under
-- it. One request brings it, no other one books anything, and a provider is asked for it once.
theorem run_single (events : List Event) (k : String)
    (distinct : (run events).server.gauge.Distinct) : Single events k := by
  refine ⟨?_, ?_, fun i j => Inserted.unique distinct, ?_, ?_⟩
  · exact (run_keyed events).few (run_orderly events distinct).single k
  · intro early late r split stored
    subst split
    obtain ⟨r', there, number, purpose⟩ := (run_grows early late distinct).keys k r stored
    obtain ⟨kind, wallet⟩ := Purpose.mk.inj purpose
    exact ⟨r', there, number, kind, wallet⟩
  · intro i carries booked
    obtain ⟨operation, there, keyed⟩ := Option.bind_eq_some_iff.mp carries
    obtain ⟨q, g, rfl, key⟩ := Operation.request_of_key keyed
    obtain ⟨flow, σ, past, _⟩ := run_request events i q g there
    rw [key] at past
    cases past with
    | seeking idle => exact absurd booked idle
    | placed wrote => exact wrote.inserted
    | spent wrote => exact wrote.inserted
  · cases behalf : (start.orders events).filter (OnBehalf events k) with
    | nil => exact Nat.zero_le _
    | cons first rest =>
      have mine : first ∈ (start.orders events).filter (OnBehalf events k) := by
        rw [behalf]
        exact List.mem_cons_self
      obtain ⟨given, behalf'⟩ := List.mem_filter.mp mine
      have inserted := OnBehalf.inserted (of_decide_eq_true behalf') given distinct
      obtain ⟨_, _, _, _, alone⟩ := order_wrote given
      -- All of them come from the request that brought the row, and that one orders once.
      have same : (start.orders events).filter (OnBehalf events k) =
          ((start.orders events).filter fun order => order.1 = first.1).filter (OnBehalf events k) := by
        rw [List.filter_filter]
        refine List.filter_congr fun order given' => ?_
        by_cases behalf : OnBehalf events k order
        · simp [behalf, Inserted.unique distinct (behalf.inserted given' distinct) inserted]
        · simp [behalf]
      have one := congrArg List.length alone
      rw [ordersOf, List.length_map, List.length_singleton] at one
      rw [← behalf, same, ← one]
      exact List.length_filter_le _ _

-- Two purchases under one key both look it up before either of them has reserved anything.
def cardRace : List Event :=
  let purchase := Event.begin (.purchaseGiftCard ⟨⟨some "cards", none, none⟩, 1000⟩
    { cardRequest with idempotencyKey := some "g" })
  giftEvents ++ [purchase, purchase, .advance 3, .advance 4, .advance 4, .advance 4, .advance 4,
    .advance 3, .advance 3, .advance 3, .advance 3]

theorem run_single_raced :
    Carries cardRace "g" 3 ∧ Carries cardRace "g" 4 ∧ (start.orders cardRace).map Prod.fst = [4] ∧
      (run cardRace).server.tables.transactions.length = 2 ∧ Single cardRace "g" :=
  ⟨by decide +kernel, by decide +kernel, by decide +kernel, by decide +kernel,
    run_single cardRace "g" (Gauge.distinct_of_le (by decide +kernel))⟩

end World
end Treasury
