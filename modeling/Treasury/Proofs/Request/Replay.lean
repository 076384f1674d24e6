import Treasury.Proofs.World.Pursuit
import Treasury.Proofs.Request.Reserving

namespace Treasury

open Transactions

namespace Request

variable {q : Request} {providers : Registry} {s s' : Server} {record r : Transaction}

-- The transaction of a record stays under the key of a request, and the request comes as far as
-- its key.
structure Kept (q : Request) (providers : Registry) (record : Transaction) (s : Server) : Prop where
  keyed : ∀ k, q.key = some k →
    ∃ r, s.tables.transactionOf? k = some r ∧ r.id = record.id ∧ q.Accepts r
  clear : q.Clear providers s.clock s.tables

theorem Clear.later (clear : q.Clear providers s.clock s.tables) (later : s.Later s') :
    q.Clear providers s'.clock s'.tables :=
  clear.mono later.tables.held fun _ _ _ lands => later.tables.lands later.clock lands

theorem Kept.later (kept : q.Kept providers record s) (later : s.Later s') :
    q.Kept providers record s' := by
  refine ⟨fun k keyed => ?_, kept.clear.later later⟩
  obtain ⟨r, stored, same, accepts⟩ := kept.keyed k keyed
  obtain ⟨r', stored', id, purpose⟩ := later.tables.keys k r stored
  exact ⟨r', stored', id.trans same, accepts.alike purpose⟩

theorem Kept.same (kept : q.Kept providers record s) (same : r.id = record.id) :
    q.Kept providers r s :=
  ⟨fun k keyed => same ▸ kept.keyed k keyed, kept.clear⟩

theorem Kept.of_answers (answers : Answers q.key q.purpose g s.tables r g' p)
    (tables : s'.tables = p.getD s.tables) (clear : q.Clear providers s'.clock s'.tables) :
    q.Kept providers r s' := by
  refine ⟨fun k keyed => ⟨r, ?_, rfl, ?_⟩, clear⟩
  · rw [tables]
    cases answers with
    | replayed keyed' stored =>
      cases keyed.symm.trans keyed'
      exact stored
    | created created own => exact created.keyed (own.trans keyed)
  · cases answers with
    | replayed _ _ alike => exact accepts_of_purpose alike
    | created _ _ alike => exact accepts_of_purpose alike

-- The task answers a record that stays, whatever others do meanwhile.
def Lasts (q : Request) (providers : Registry) (task : Task TransactionError Transaction)
    (s : Server) : Prop :=
  task.Comes s fun r s' => q.Kept providers r s'

theorem Lasts.books {task : Task TransactionError Transaction}
    (acts : task.Acts (fun _ t h => Conflicts q.key q.purpose t h) (Answers q.key q.purpose))
    (clear : q.Clear providers s.clock s.tables) : q.Lasts providers task s := by
  refine .acts acts fun s₁ s₂ r p came did answers tables => ?_
  exact .of_answers answers tables (clear.later (came.trans did))

theorem Lasts.deposit (r : DepositRequest) :
    (Request.deposit r).Lasts providers (Transactions.deposit r) s := by
  refine .bind (.checked fun a amount => ?_)
  exact Lasts.books (q := .deposit r) (.unit fun _ _ => depositIn_runs amount) ⟨a, amount⟩

-- The record is there from its reservation on, and its settlement leaves it in its place.
theorem Lasts.execute {d : Draft} (placed : d.Placed) (key : d.idempotencyKey = q.key)
    (purpose : d.purpose = q.purpose) (clear : q.Clear providers s.clock s.tables) :
    q.Lasts providers (External.execute timeout d provider order) s := by
  refine .bind (.acts (External.reserve_acts placed) fun s₁ s₂ found p came did places tables => ?_)
  have answers := places.answers
  rw [key, purpose] at answers
  have kept := Kept.of_answers answers tables (clear.later (came.trans did))
  cases found with
  | replayed r => exact .report_then fun s₃ later => .pure (kept.later later)
  | reserved r =>
    refine .bind ((Task.Comes.later did.honest).mono fun outcome s₃ waited => ?_)
    refine Task.Comes.settle ⟨r.id, .pending, provider, outcome⟩ fun s₄ s₅ r' p came did settles => ?_
    exact (kept.later (waited.trans (came.trans did))).same settles.id

theorem Lasts.charge {id : WalletId} {draft : Wallet → Draft}
    (placed : ∀ w, w.currency = currency → (draft w).Placed)
    (own : ∀ w, w.id = id → (draft w).idempotencyKey = q.key ∧ (draft w).purpose = q.purpose)
    (clear : ∀ now t, t.HeldIn id currency → q.Clear providers now t) :
    q.Lasts providers (do
      let w ← loadWallet id
      Task.checked (checkCurrency w currency)
      External.execute timeout (draft w) provider order) s := by
  refine .bind (.acts (loadWallet_acts id) fun s₁ s₂ w p _ _ loaded tables => ?_)
  obtain ⟨stored, _, rfl⟩ := loaded
  refine .bind (.checked fun _ same => ?_)
  have same := checkCurrency_ok same
  obtain ⟨key, purpose⟩ := own w (Rows.key_of_find? stored)
  refine Lasts.execute (placed w same) key purpose (clear _ _ ?_)
  rw [tables]
  exact (Tables.heldIn_iff stored).mpr same

theorem Lasts.payout (g : Gateway) (r : PayoutRequest) :
    (Request.payout r).Lasts g.providers (payOut g r) s := by
  refine .bind (.checked fun a amount => ?_)
  refine .bind (.checked fun f fee => ?_)
  refine .bind (.checked fun provider configured => ?_)
  exact Lasts.charge (q := .payout r) (fun w same => .payout r w amount fee same)
    (fun w number => ⟨rfl, congrArg (Purpose.mk .fiatPayout) number⟩)
    fun _ _ held => ⟨⟨a, amount⟩, ⟨f, fee⟩, ⟨provider, configured⟩, held⟩

theorem Lasts.send (g : Gateway) (r : SendRequest) :
    (Request.send r).Lasts g.providers (sendCrypto g r) s := by
  refine .bind (.checked fun a amount => ?_)
  refine .bind (.checked fun f fee => ?_)
  refine .bind (.checked fun provider configured => ?_)
  exact Lasts.charge (q := .send r) (fun w same => .send r w amount fee same)
    (fun w number => ⟨rfl, congrArg (Purpose.mk .cryptoSend) number⟩)
    fun _ _ held => ⟨⟨a, amount⟩, ⟨f, fee⟩, ⟨provider, configured⟩, held⟩

theorem Lasts.quoted {r : GiftCardRequest} (honest : s.Honest)
    (clear : ∀ now t, (Request.giftCard r).Clear providers now t) :
    (Request.giftCard r).Lasts providers (do
      let q ← quote r
      External.execute timeout (giftCardDraft r q) provider (giftCardOrder r q)) s := by
  refine .bind ((Task.Comes.lawful (quote_lawful r) honest).mono fun q s₁ quoted => ?_)
  exact Lasts.execute (.giftCard r q quoted.2) rfl
    (congrArg (Purpose.mk .giftCardPurchase) quoted.1) (clear _ _)

theorem Lasts.giftCard (g : Gateway) (r : GiftCardRequest) (honest : s.Honest) :
    (Request.giftCard r).Lasts g.providers (purchaseGiftCard g r) s := by
  unfold purchaseGiftCard
  split
  · exact Task.Comes.refuse
  · rename_i several
    split
    · exact Task.Comes.refuse
    · rename_i priced
      refine .bind (.checked fun provider configured => ?_)
      have clear (now : Instant) (t : Tables) : (Request.giftCard r).Clear g.providers now t :=
        ⟨several, priced, provider, configured⟩
      cases keyed : r.idempotencyKey with
      | none => exact Lasts.quoted honest clear
      | some k =>
        refine .bind (.acts (findByKey_acts k) fun s₁ s₂ known p came did looked tables => ?_)
        obtain ⟨rfl, rfl⟩ := looked
        cases stored : s₁.tables.transactionOf? k with
        | none => exact Lasts.quoted did.honest clear
        | some known =>
          refine .pure ⟨fun k' same => ⟨known, ?_, rfl, trivial⟩, clear _ _⟩
          cases keyed.symm.trans same
          exact tables ▸ stored

-- The wallet and the rate that a transfer found are still there, or a later rate, when it is booked.
theorem creditedRate_comes (r : TransferRequest) :
    (creditedRate r).Comes s fun known s' => s'.tables.Lands s'.clock r.currency r.destination ∧
      (known.2 = none → known.1 = r.currency) := by
  unfold creditedRate
  cases r.destination with
  | external => exact .pure ⟨trivial, fun _ => rfl⟩
  | wallet id =>
    refine .bind (.acts (loadWallet_acts id) fun s₁ s₂ w p _ _ loaded tables => ?_)
    obtain ⟨stored, _, rfl⟩ := loaded
    have held : s₂.tables.HeldIn id w.currency := by
      rw [tables]
      exact (Tables.heldIn_iff stored).mpr rfl
    split
    · rename_i same
      exact .pure ⟨⟨w.currency, held, fun apart => absurd same apart⟩, fun _ => same⟩
    · rename_i apart
      refine .bind (.told (.acts (Rates.get_acts (Ne.symm apart))
        fun s₃ s₄ x p came did known _ => ?_))
      obtain ⟨⟨rate, known, _⟩, _⟩ := known
      refine .pure ⟨did.tables.lands did.clock ?_, nofun⟩
      exact ⟨w.currency, came.tables.held _ _ held, fun _ => ⟨rate, known⟩⟩

theorem credited_comes (r : TransferRequest) (amount : Decimal) :
    (credited r amount).Comes s fun c s' =>
      s'.tables.Lands s'.clock r.currency r.destination ∧ c.Of r amount := by
  refine .bind ((creditedRate_comes r).mono fun known s₁ rated => ?_)
  obtain ⟨lands, same⟩ := rated
  obtain ⟨currency, rate⟩ := known
  have rest (c : Credited) (worth : c.Of r amount) :
      (if c.amount ≤ 0 then Task.refuse .amountTooSmall else pure c :
        Task TransactionError Credited).Comes s₁
      fun c s' => s'.tables.Lands s'.clock r.currency r.destination ∧ c.Of r amount := by
    split
    · exact .refuse
    · exact .pure ⟨lands, worth⟩
  cases rate with
  | none => exact .bind (.pure (rest ⟨_, _, _⟩ (.inl ⟨same rfl, rfl⟩)))
  | some x =>
    exact .bind (.exactly fun product _ => .bind (.pure (rest ⟨_, _, _⟩ (.inr ⟨product, rfl⟩))))

theorem Lasts.transfer (r : TransferRequest) :
    (Request.transfer r).Lasts providers (Transactions.transfer r) s := by
  refine .bind (.checked fun a amount => ?_)
  refine .bind (.checked fun f fee => ?_)
  split
  · exact .refuse
  · rename_i apart
    refine .bind ((credited_comes r a).mono fun c s₁ credited => ?_)
    obtain ⟨lands, worth⟩ := credited
    exact Lasts.books (q := .transfer r) (.unit fun _ _ => transferIn_runs amount fee apart worth)
      ⟨⟨a, amount⟩, ⟨f, fee⟩, apart, lands⟩

theorem lasts (q : Request) (g : Gateway) (honest : s.Honest) :
    q.Lasts g.providers (q.task g) s := by
  cases q with
  | deposit r => exact .deposit r
  | transfer r => exact .transfer r
  | giftCard r => exact .giftCard g r honest
  | payout r => exact .payout g r
  | send r => exact .send g r

end Request

namespace World

open Request

-- A run in which the request began and was answered with the record. From its beginning on the
-- clock is never set back; nothing else is said of what came before and what goes on.
inductive Answered (q : Request) (g : Gateway) (record : Transaction) : World → Prop where
  | once (before after : List Event)
      (distinct : (run (before ++ .begin (q.operation g) :: after)).server.gauge.Distinct)
      (forward : (run before).Always Forward (.begin (q.operation g) :: after))
      (answered :
        (run (before ++ .begin (q.operation g) :: after)).activities[(run before).activities.length]? =
          some ⟨Flow.done (.ok record : Except (Halt TransactionError) Transaction)⟩) :
      Answered q g record (run (before ++ .begin (q.operation g) :: after))

variable {q : Request} {g : Gateway} {record : Transaction} {w : World}

theorem Answered.ordered (answered : Answered q g record w) : w.Ordered := by
  cases answered with
  | once before after distinct => exact run_ordered _ distinct

theorem Answered.kept (answered : Answered q g record w) : q.Kept g.providers record w.server := by
  cases answered with
  | once before after distinct forward answered =>
    rw [run_append] at distinct answered ⊢
    have started := run_ordered before (distinct.before ((run_sound before).issued _))
    have began : ((run before).take (.begin (q.operation g))).Pursues (run before).activities.length
        fun (result : Except (Halt TransactionError) Transaction) s =>
          ∀ r, result = .ok r → q.Kept g.providers r s := by
      refine ⟨(q.task g).run, ?_, Flow.Ensures.mono (q.lasts g started.sound.honest) ?_⟩
      · rw [take, List.getElem?_concat_length, q.operation_activity g]
      · rintro (h | r) s _ kept
        · rintro _ ⟨⟩
        · rintro _ ⟨⟩
          exact kept
    -- From the answer on nothing that others do takes the record from its key.
    have next := distinct.before ((started.sound.take _).1.issued after)
    obtain ⟨flow, there, ensures⟩ := began.after (started.take next) after distinct forward.2
      fun _ _ _ kept later r ok => (kept r ok).later later
    cases there.symm.trans answered
    exact ensures record rfl

-- A request that was answered is answered again with the transaction as it stands by then, whatever
-- went on meanwhile. It changes nothing and calls nobody.
theorem run_replayed (q : Request) (g : Gateway) (k : String) (record : Transaction) (w : World)
    (keyed : q.key = some k) (answered : Answered q g record w) (calm : w.server.Calm)
    (converts : q.Converts w.server.clock w.server.tables) :
    ∃ r, w.server.tables.transaction? record.id = some r ∧ q.Merely g w.server (.ok r) := by
  have ordered := answered.ordered
  have kept := answered.kept
  obtain ⟨r, stored, same, accepts⟩ := kept.keyed k keyed
  refine ⟨r, ?_, merely_replays ordered.sound.honest calm keyed stored accepts kept.clear converts⟩
  rw [← same]
  exact Rows.find?_of_mem ordered.orderly.single (List.mem_of_find?_eq_some stored)

-- A wallet in one currency, one in another, and a rate between the two.
def pairEvents : List Event :=
  depositEvents ++ [.begin (.openWallet 8 .usd .personal), .advance 2,
    .begin (.recordRate ⟨.ngn, .usd, 1, ⟨-2, 0⟩⟩), .advance 3]

-- A transfer of 0.10 from the one to the other.
def crossing : Request :=
  .transfer ⟨some "k", Supply.wallet ⟨0⟩, .wallet (Supply.wallet ⟨4⟩), .ngn,
    .ofCents 10 (by decide), 0, ""⟩

-- The transfer is made, and then another rate is recorded.
def crossedEvents (cents : Nat) (fits : cents < 2 ^ 96) : List Event :=
  [.advance 4, .advance 4, .advance 4,
    .begin (.recordRate ⟨.ngn, .usd, .ofCents cents fits, ⟨-1, 0⟩⟩), .advance 5]

def crossedWorld (cents : Nat) (fits : cents < 2 ^ 96) : World :=
  run (pairEvents ++ .begin (crossing.operation bankGateway) :: crossedEvents cents fits)

theorem run_replayed_crossing :
    ∃ record r : Transaction, record.idempotencyKey = some "k" ∧
      (crossedWorld 50 (by decide)).server.tables.transaction? record.id = some r ∧
      crossing.Merely bankGateway (crossedWorld 50 (by decide)).server (.ok r) := by
  have answered : ∃ record : Transaction, record.idempotencyKey = some "k" ∧
      Answered crossing bankGateway record (crossedWorld 50 (by decide)) :=
    ⟨_, rfl, .once pairEvents (crossedEvents 50 (by decide))
      (Gauge.distinct_of_le (by decide +kernel)) (by decide +kernel) rfl⟩
  obtain ⟨record, key, answered⟩ := answered
  have converts : crossing.Converts (crossedWorld 50 (by decide)).server.clock
      (crossedWorld 50 (by decide)).server.tables := by
    rintro _ received rate ⟨⟩ held _ known
    cases held
    cases known
    exact ⟨_, rfl, by decide +kernel⟩
  obtain ⟨r, stored, merely⟩ :=
    run_replayed crossing bankGateway "k" record _ rfl answered ⟨rfl, rfl, rfl⟩ converts
  exact ⟨record, r, key, stored, merely⟩

-- At a rate at which 0.10 comes to nothing, the transfer that was made is refused.
theorem crossing_refused :
    ¬ ∀ (q : Request) (g : Gateway) (k : String) (record : Transaction) (w : World),
      q.key = some k → Answered q g record w → w.server.Calm →
      ∃ r, w.server.tables.transaction? record.id = some r ∧ q.Merely g w.server (.ok r) := by
  intro replays
  have answered : ∃ record, Answered crossing bankGateway record (crossedWorld 1 (by decide)) :=
    ⟨_, .once pairEvents (crossedEvents 1 (by decide))
      (Gauge.distinct_of_le (by decide +kernel)) (by decide +kernel) rfl⟩
  obtain ⟨record, answered⟩ := answered
  have refused : ((crossing.task bankGateway).run.runAlone silence
      (crossedWorld 1 (by decide)).server).1 = .error (.refused .amountTooSmall) := rfl
  obtain ⟨r, _, merely⟩ := replays crossing bankGateway "k" record _ rfl answered ⟨rfl, rfl, rfl⟩
  cases refused.symm.trans (merely silence).1

end World
end Treasury
