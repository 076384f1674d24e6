import Treasury.Proofs.Request.Exact
import Treasury.Proofs.Request.Pricing
import Treasury.Proofs.Request.Replay

namespace Treasury

open Transactions
open Decimal (Fits)

-- What a transfer needs.
structure Tables.Admits (t : Tables) (now : Instant) (r : TransferRequest) : Prop where
  amount : ∃ a, checkedAmount r.amount r.currency = .ok a
  fee : ∃ f, checkedFee r.fee r.currency = .ok f
  apart : r.destination ≠ .wallet r.sourceWalletId
  destination : ∀ id, r.destination = .wallet id → ∃ d, t.wallet? id = some d ∧ d.status ≠ .closed
  rate : ∀ id d, r.destination = .wallet id → t.wallet? id = some d → d.currency ≠ r.currency →
    ∃ rate, t.rate? r.currency d.currency now = some rate
  positive : ∀ c, t.Credits now r c → 0 < c.amount
  source : ∃ w, t.wallet? r.sourceWalletId = some w ∧ w.currency = r.currency ∧ w.status = .active ∧
    r.amount.value + r.fee.value ≤ w.balance.value

-- The sums, differences and products that it takes are exact ones.
structure TransferRequest.Countable (r : TransferRequest) (now : Instant) (t : Tables) : Prop where
  total : Fits (r.amount.value + r.fee.value)
  product : ∀ received rate, t.Rated now r received (some rate) → Fits (r.amount.value * rate.value)
  source : ∀ w, t.wallet? r.sourceWalletId = some w →
    r.amount.value + r.fee.value ≤ w.balance.value → Fits (w.balance.value - (r.amount.value + r.fee.value))
  destination : ∀ id d c, r.destination = .wallet id → t.wallet? id = some d → t.Credits now r c →
    Fits (d.balance.value + c.amount.value)

def farLine (r : TransferRequest) (c : Credited) : Line :=
  match r.destination with
  | .wallet id => ⟨.wallet id, c.currency, c.amount, r.amount⟩
  | .external reference _ => ⟨.external reference, r.currency, r.amount, r.amount⟩

def transferLines (r : TransferRequest) (c : Credited) (total fee : Decimal) : List Line :=
  ⟨.wallet r.sourceWalletId, r.currency, -total, -total⟩ :: farLine r c :: feeLines r.currency fee

-- What a transfer leaves: its record, two balances that moved, and its entries.
structure Tables.Transferred (t : Tables) (r : TransferRequest) (c : Credited) (x : Transaction)
    (t' : Tables) : Prop where
  record : t'.transaction? x.id = some x
  succeeded : x.status = .succeeded
  paid : x.amount = r.amount ∧ x.fee.value = r.fee.value
  rate : x.exchangeRate = c.rate ∧ x.details = .transfer r.destination c.rate c.amount c.currency
  source : ∃ w w', t.wallet? r.sourceWalletId = some w ∧ t'.wallet? r.sourceWalletId = some w' ∧
    w'.balance.value = w.balance.value - (r.amount.value + r.fee.value)
  destination : ∀ id, r.destination = .wallet id → ∃ d d', t.wallet? id = some d ∧
    t'.wallet? id = some d' ∧ d'.balance.value = d.balance.value + c.amount.value
  others : ∀ id, id ≠ r.sourceWalletId → r.destination ≠ .wallet id → t'.wallet? id = t.wallet? id
  booked : ∃ es total, t'.entries = t.entries ++ es ∧
    (∀ e ∈ es, e.transactionId = x.id ∧ e.onPlatform = e.account.isOnPlatform) ∧
    total.value = r.amount.value + r.fee.value ∧ es.map Entry.line = transferLines r c total x.fee
  outside : ∀ reference institution, r.destination = .external reference institution →
    ∃ e ∈ t'.entriesOf x.id, e.line = ⟨.external reference, r.currency, r.amount, r.amount⟩ ∧
      e.onPlatform = false

theorem checkedTotal_positive {total : Decimal} (amount : checkedAmount amount₀ currency = .ok a)
    (fee : checkedFee fee₀ currency = .ok f) (sum : total.value = a.value + f.value) :
    ¬ total ≤ 0 := by
  have more := Decimal.not_le_iff.mp (checkedAmount_positive amount)
  have some : 0 ≤ f.value := by
    by_cases due : 0 < f
    · rw [Decimal.lt_iff_value, Decimal.value_zero] at due
      exact le_of_lt due
    · exact le_of_eq (Decimal.isZero_iff_value.mp (checkedFee_zero fee due)).symm
  rw [Decimal.not_le_iff, Decimal.lt_iff_value, Decimal.value_zero, sum]
  rw [Decimal.lt_iff_value, Decimal.value_zero] at more
  exact add_pos_of_pos_of_nonneg more some

-- A transfer books on no wallet but those at its ends.
theorem transferLines_on {id : WalletId} (mem : l ∈ transferLines r c total fee) (on : l.account = .wallet id) :
    id = r.sourceWalletId ∨ r.destination = .wallet id := by
  rcases List.mem_cons.mp mem with rfl | mem
  · exact .inl (Account.wallet.inj on).symm
  · rcases List.mem_cons.mp mem with rfl | mem
    · unfold farLine at on
      cases sent : r.destination with
      | wallet received =>
        rw [sent] at on
        exact .inr (congrArg Destination.wallet (Account.wallet.inj on))
      | external =>
        rw [sent] at on
        cases on
    · unfold feeLines at mem
      split at mem
      · cases List.mem_singleton.mp mem
        cases on
      · cases mem

namespace Tables

variable {t : Tables} {now : Instant} {r : TransferRequest} {c c' : Credited}

theorem Rated.unique (rated : t.Rated now r received rate) (again : t.Rated now r received' rate') :
    received = received' ∧ rate = rate' := by
  cases rated with
  | outside sent =>
    cases again with
    | outside => exact ⟨rfl, rfl⟩
    | home sent' => cases sent.symm.trans sent'
    | foreign sent' => cases sent.symm.trans sent'
  | home sent held =>
    cases again with
    | outside sent' => cases sent.symm.trans sent'
    | home => exact ⟨rfl, rfl⟩
    | foreign sent' held' apart =>
      cases sent.symm.trans sent'
      exact absurd (Option.some.inj (held'.symm.trans held)) apart
  | foreign sent held apart known =>
    cases again with
    | outside sent' => cases sent.symm.trans sent'
    | home sent' held' =>
      cases sent.symm.trans sent'
      exact absurd (Option.some.inj (held.symm.trans held')) apart
    | foreign sent' held' _ known' =>
      cases sent.symm.trans sent'
      cases held.symm.trans held'
      cases known.symm.trans known'
      exact ⟨rfl, rfl⟩

theorem Credits.unique (credits : t.Credits now r c) (again : t.Credits now r c') : c = c' := by
  obtain ⟨rated, worth⟩ := credits
  obtain ⟨rated', worth'⟩ := again
  obtain ⟨currency, amount, rate⟩ := c
  obtain ⟨currency', amount', rate'⟩ := c'
  obtain ⟨rfl, rfl⟩ := rated.unique rated'
  cases rate with
  | none => rw [show amount = amount' from worth.trans worth'.symm]
  | some x =>
    obtain ⟨product, made, rounded⟩ := worth
    obtain ⟨product', made', rounded'⟩ := worth'
    cases made.symm.trans made'
    rw [show amount = amount' from rounded.trans rounded'.symm]

theorem Rated.held {id : WalletId} (rated : t.Rated now r received rate)
    (sent : r.destination = .wallet id) : t.HeldIn id received := by
  cases rated with
  | outside sent' => cases sent.symm.trans sent'
  | home sent' held =>
    cases sent.symm.trans sent'
    exact held
  | foreign sent' held =>
    cases sent.symm.trans sent'
    exact held

namespace Admits

theorem lands (admits : t.Admits now r) : t.Lands now r.currency r.destination := by
  cases sent : r.destination with
  | external => trivial
  | wallet id =>
    obtain ⟨d, stored, _⟩ := admits.destination id sent
    exact ⟨d.currency, (heldIn_iff stored).mpr rfl, admits.rate id d sent stored⟩

theorem converts (admits : t.Admits now r) (countable : r.Countable now t) : t.Converts now r := by
  intro id received rate sent held apart known
  have rated : t.Rated now r received (some rate.rate) := .foreign sent held apart known
  obtain ⟨product, made, _⟩ := Decimal.mul_exact (countable.product received rate.rate rated)
  have credits : t.Credits now r ⟨received, received.round product, some rate.rate⟩ :=
    ⟨rated, product, made, rfl⟩
  exact ⟨product, made, Decimal.not_le_iff.mpr (admits.positive _ credits)⟩

-- Where all of it is given and no balance is negative, nothing stands in the way.
theorem unstopped (admits : t.Admits now r) (countable : r.Countable now t)
    (sound : ∀ w ∈ t.wallets, ¬ w.balance < 0) (credits : t.Credits now r c)
    (amount : checkedAmount r.amount r.currency = .ok a) (fee : checkedFee r.fee r.currency = .ok f) :
    ¬ Stopped r a f c t := by
  obtain ⟨w, stored, currency, active, covered⟩ := admits.source
  have same := checkedAmount_same amount
  subst same
  rw [← checkedFee_same fee] at covered
  have total_ := countable.total
  rw [← checkedFee_same fee] at total_
  intro stopped
  cases stopped with
  | missing mine unknown =>
    rcases mine with rfl | sent
    · cases stored.symm.trans unknown
    · obtain ⟨d, there, _⟩ := admits.destination _ sent
      cases there.symm.trans unknown
  | foreign sent there other =>
    exact other ((heldIn_iff there).mp (credits.rated.held sent))
  | mismatched there other =>
    cases stored.symm.trans there
    exact other currency
  | uncounted broken =>
    obtain ⟨total, sum, _⟩ := Decimal.add_exact total_
    cases broken.symm.trans sum
  | overdrawn _ _ made below => exact Ledger.Movement.debit_covered made below
  | @undebited _ total _ there sum why =>
    cases stored.symm.trans there
    have paid := Decimal.add_value sum total_
    have positive := checkedTotal_positive amount fee paid
    rw [← paid] at covered
    have enough : ¬ w.balance < total := Decimal.not_lt_iff.mpr (Decimal.le_iff_value.mpr covered)
    obtain ⟨operation, broken, _⟩ :=
      Ledger.Movement.debit_error why positive (by rw [Wallet.canDebit, active]; rfl) enough
    have fits := countable.source w stored
    rw [← checkedFee_same fee, ← paid] at fits
    obtain ⟨_, left, _⟩ := Decimal.sub_exact (fits covered)
    cases broken.symm.trans left
  | uncredited sent there why =>
    obtain ⟨d, there', open_⟩ := admits.destination _ sent
    cases there'.symm.trans there
    have positive := Decimal.not_le_iff.mpr (admits.positive c credits)
    obtain ⟨operation, broken, _⟩ :=
      Ledger.Movement.credit_error why (by simpa [Wallet.canCredit] using open_) positive
    obtain ⟨_, sum, _⟩ := Decimal.add_exact (countable.destination _ _ c sent there credits)
    cases broken.symm.trans sum
  | short sent there made below =>
    obtain ⟨_, refunded⟩ := Ledger.Movement.credit_parts made
    exact sound _ (Rows.mem_of_find? there) (Ledger.Movement.refund_short refunded below)

end Admits

theorem transferLegs_lines {id : TransactionId} (farEnd : FarEnd)
    (stored : t.wallet? r.sourceWalletId = some w) (currency : w.currency = r.currency)
    (far : FarEnd.Of t c r.destination farEnd) (total f : Decimal)
    (shape : x = { (transferDraft r r.amount f c w).toTransaction id moment with status := .succeeded }) :
    (transferLegs x w total r.amount f c farEnd).map Leg.line = transferLines r c total f := by
  have number : w.id = r.sourceWalletId := Rows.key_of_find? stored
  have own : x.currency = r.currency := by
    rw [shape]
    exact currency
  have fees : (feeLegs x.currency f).map Leg.line = feeLines r.currency f := by
    unfold feeLegs feeLines
    rw [own]
    split <;> rfl
  have landed : (farLeg x.currency r.amount c farEnd).line = farLine r c := by
    unfold farLine
    cases sent : r.destination with
    | external reference =>
      rw [sent] at far
      cases farEnd with
      | wallet => exact far.elim
      | account booked =>
        rw [show booked = reference from far, own]
        rfl
    | wallet id =>
      rw [sent] at far
      cases farEnd with
      | account => exact far.elim
      | wallet d =>
        have number' : d.id = id := Rows.key_of_find? far.1
        rw [← number', ← far.2]
        rfl
  rw [transferLegs, List.map_cons, List.map_cons, fees, landed, transferLines, ← number, ← currency]
  rfl

theorem booked_ends {n : TransactionId} {farEnd : FarEnd}
    (books : Books n t (transferLegs x w total a f c farEnd) t') :
    w.status = .active ∧ total ≤ w.balance ∧ ∀ d, farEnd = .wallet d → d.status ≠ .closed := by
  cases books with
  | cons debited rest =>
    cases rest with
    | cons landed =>
      cases debited with
      | wallet m made =>
        obtain ⟨_, active, covered, _⟩ := Ledger.Movement.debit_parts (Option.some.inj made)
        refine ⟨by simpa [Wallet.canDebit] using active, Decimal.not_lt_iff.mp covered, ?_⟩
        rintro d rfl
        cases landed with
        | wallet m made =>
          obtain ⟨open_, _⟩ := Ledger.Movement.credit_parts (Option.some.inj made)
          simpa [Wallet.canCredit] using open_

theorem Rated.known (rated : t.Rated now r received rate) (apart : received ≠ r.currency) :
    ∃ rate, t.rate? r.currency received now = some rate := by
  cases rated with
  | outside => exact absurd rfl apart
  | home => exact absurd rfl apart
  | foreign _ _ _ known => exact ⟨_, known⟩

theorem Admits.of_created (created : Created g t g' x legs t')
    (opened : Transfers r r.amount f c t x legs) (total_ : Fits (r.amount.value + r.fee.value))
    (credits : t.Credits now r c) (positive : 0 < c.amount)
    (amount : checkedAmount r.amount r.currency = .ok r.amount)
    (fee : checkedFee r.fee r.currency = .ok f) (apart : r.destination ≠ .wallet r.sourceWalletId) :
    t.Admits now r := by
  have books := created.books
  rw [← checkedFee_same fee] at total_
  cases opened with
  | @transfers w _ moment total number farEnd stored currency far shape sum =>
    obtain ⟨active, covered, open_⟩ := booked_ends books
    refine ⟨⟨_, amount⟩, ⟨_, fee⟩, apart, fun id sent => ?_, fun id d sent there other => ?_,
      fun c' again => ?_, w, stored, currency, active, ?_⟩
    · rw [sent] at far
      cases farEnd with
      | account => exact far.elim
      | wallet d => exact ⟨d, far.1, open_ d rfl⟩
    · have received := (heldIn_iff there).mp (credits.rated.held sent)
      rw [received] at other ⊢
      exact credits.rated.known other
    · rw [again.unique credits]
      exact positive
    · have paid := x.total_exact (by rw [shape]; exact total_) sum
      rw [Decimal.le_iff_value, paid, shape] at covered
      rw [← checkedFee_same fee]
      exact covered

theorem Transferred.of_created (created : Created g t g' x legs t')
    (opened : Transfers r r.amount f c t x legs) (countable : r.Countable now t)
    (admits : t.Admits now r) (credits : t.Credits now r c)
    (fee : checkedFee r.fee r.currency = .ok f) : t.Transferred r c x t' := by
  have free := checkedFee_same fee
  obtain ⟨es, appended, mine, lines⟩ := created.books.entries
  have placed : ∀ e ∈ es, e.onPlatform = e.account.isOnPlatform := by
    obtain ⟨es', again, placed⟩ := created.books.platforms
    exact List.append_cancel_left (appended.symm.trans again) ▸ placed
  obtain ⟨w, stored, _, _, covered⟩ := admits.source
  cases opened with
  | @transfers w' _ moment total id farEnd stored' currency far shape sum =>
    cases stored.symm.trans stored'
    have number : w.id = r.sourceWalletId := Rows.key_of_find? stored
    have fits : Fits (x.amount.value + x.fee.value) := by
      rw [shape]
      exact free ▸ countable.total
    have moves := created.moves fits
    have own : x.walletId = r.sourceWalletId := by
      rw [shape]
      exact number
    have gain : x.gain = -(r.amount.value + r.fee.value) := by
      rw [shape, ← free]
      rfl
    have booked : es.map Entry.line = transferLines r c total x.fee := by
      rw [lines, transferLegs_lines farEnd stored currency far total f shape, shape]
      rfl
    refine ⟨created.stored, by rw [shape], ?_, ?_, ?_, fun id sent => ?_, fun id other unsent => ?_,
      ⟨es, total, appended, fun e mem => ⟨mine e mem, placed e mem⟩, ?_, booked⟩,
      fun reference institution sent => ?_⟩
    · rw [shape]
      exact ⟨rfl, free⟩
    · rw [shape]
      exact ⟨rfl, rfl⟩
    · obtain ⟨v, v', there, after, exact⟩ := moves.own
      rw [own] at there after
      cases stored.symm.trans there
      rw [gain, ← sub_eq_add_neg] at exact
      exact ⟨w, v', stored, after, exact (countable.source w stored covered)⟩
    · have credited : x.credited? = some (id, c.amount) := by
        simp [shape, Transaction.credited?, Draft.toTransaction, transferDraft, sent]
      obtain ⟨d, d', there, after, exact⟩ := moves.credited id c.amount credited
      exact ⟨d, d', there, after, exact (countable.destination id d c sent there credits)⟩
    · refine created.books.wallet?_other fun leg mem on => ?_
      have line : leg.line ∈ transferLines r c total f := by
        rw [← transferLegs_lines farEnd stored currency far total f shape]
        exact List.mem_map_of_mem mem
      exact (transferLines_on line on).elim other unsent
    · rw [x.total_exact fits sum, shape, ← free]
      rfl
    · have landed : farLine r c ∈ es.map Entry.line :=
        booked ▸ List.mem_cons_of_mem _ List.mem_cons_self
      obtain ⟨e, mem, line⟩ := List.mem_map.mp landed
      rw [farLine, sent] at line
      have account : e.account = .external reference := congrArg Line.account line
      refine ⟨e, List.mem_filter.mpr ⟨?_, decide_eq_true (mine e mem)⟩, line, ?_⟩
      · exact appended ▸ List.mem_append_right _ mem
      · rw [placed e mem, account]
        rfl

end Tables

namespace Transactions

variable {s : Server} {r : TransferRequest} {c : Credited}

-- A transfer without a key is made where the rows admit it, and there alone.
theorem transfer_alone (honest : s.Honest) (sound : ∀ w ∈ s.tables.wallets, ¬ w.balance < 0)
    (keyless : r.idempotencyKey = none) (countable : r.Countable s.clock s.tables) :
    (transfer r).Alone s
      (fun _ s' _ => s'.tables = s.tables ∧ (s.Calm → ¬ s.tables.Admits s.clock r))
      fun x s' _ => s.tables.Admits s.clock r ∧
        ∃ c, s.tables.Credits s.clock r c ∧ s.tables.Transferred r c x s'.tables := by
  refine .bind (.checked (fun a amount => ?_) fun e failed => ⟨rfl, fun _ admits => ?_⟩)
  · cases checkedAmount_same amount
    refine .bind (.checked (fun f fee => ?_) fun e failed => ⟨rfl, fun _ admits => ?_⟩)
    · split
      · rename_i same
        exact .refuse ⟨rfl, fun _ admits => admits.apart same⟩
      · rename_i apart
        refine .bind ((credited_alone amount honest).mono (fun c s₁ calls credited => ?_)
          fun h s₁ calls failed => ?_)
        · obtain ⟨still, rfl, credits, positive⟩ := credited
          have positive := Decimal.not_le_iff.mp positive
          refine Task.Alone.acts
            (.unit fun _ _ => transferIn_refuses amount fee apart credits.of) still.honest
            (fun s₂ x p onward honours tables => ?_) fun s₂ h kept refused => ?_
          · rw [still.tables] at honours tables
            rw [tables]
            cases honours with
            | replayed keyed => cases keyless.symm.trans keyed
            | created created _ _ opened =>
              have admits := Tables.Admits.of_created created opened countable.total credits positive
                amount fee apart
              exact ⟨admits, c, credits, .of_created created opened countable admits credits fee⟩
          · refine ⟨kept.tables.trans still.tables, fun calm admits => ?_⟩
            have refused := refused (still.calm calm)
            rw [still.tables] at refused
            cases refused with
            | conflict keyed => cases keyless.symm.trans keyed
            | stopped _ stopped => exact admits.unstopped countable sound credits amount fee stopped
        · obtain ⟨still, rfl, never⟩ := failed
          exact ⟨still.tables, fun calm admits => never calm admits.lands (admits.converts countable)⟩
    · obtain ⟨f, passed⟩ := admits.fee
      cases failed.symm.trans passed
  · obtain ⟨a, passed⟩ := admits.amount
    cases failed.symm.trans passed

theorem convert_alone (calm : s.Calm) (amount : checkedAmount r.amount r.currency = .ok r.amount)
    (credits : s.tables.Credits s.clock r c) {id : WalletId} (sent : r.destination = .wallet id) :
    (Rates.convert r.amount r.currency c.currency).Alone s (fun _ _ _ => False)
      fun x _ _ => x.value = c.amount.value := by
  obtain ⟨currency, converted, rate⟩ := c
  obtain ⟨rated, worth⟩ := credits
  cases rated with
  | outside sent' => cases sent.symm.trans sent'
  | home =>
    cases worth
    obtain ⟨product, made, rounded⟩ := (checkedAmount_whole amount).worth
    rw [Rates.convert, Rates.get, if_pos rfl]
    refine .bind (.pure (.bind (.exactly (fun product' again => ?_) fun operation broken => ?_)))
    · cases again.symm.trans made
      exact .pure rounded
    · cases broken.symm.trans made
  | foreign _ _ apart known =>
    obtain ⟨product, made, rounded⟩ := worth
    refine .bind (Rates.get_alone calm.honest (fun s₁ x _ found => ?_) fun s₁ h _ missing => ?_)
    · obtain ⟨_, same, rfl⟩ := found (Ne.symm apart)
      cases known.symm.trans same
      refine .bind (.exactly (fun product' again => ?_) fun operation broken => ?_)
      · cases again.symm.trans made
        exact .pure (congrArg Decimal.value rounded.symm)
      · cases broken.symm.trans made
    · obtain ⟨_, unknown⟩ := missing calm
      cases known.symm.trans unknown

-- A transfer without a key succeeds just where all is given that it needs. The source then loses the
-- amount and the fee, the destination gains what the amount is converted to in that very state, and
-- every other wallet is left alone. A transfer that is refused changes nothing. No balance of a run
-- is ever negative, and the store takes none that is.
theorem transfers_just_where_admitted (s : Server) (calm : s.Calm)
    (sound : ∀ w ∈ s.tables.wallets, ¬ w.balance < 0) (r : TransferRequest)
    (keyless : r.idempotencyKey = none) (countable : r.Countable s.clock s.tables)
    (answer : {β : Type} → Question β → β) :
    let ended := (transfer r).run.runAlone answer s
    ((∃ x, ended.1 = .ok x) ↔ s.tables.Admits s.clock r) ∧
      (∀ h, ended.1 = .error h → ended.2.tables = s.tables) ∧
      ∀ x, ended.1 = .ok x → ∃ c, s.tables.Credits s.clock r c ∧
        s.tables.Transferred r c x ended.2.tables ∧
        ∀ id, r.destination = .wallet id → ∃ converted,
          ((Rates.convert r.amount r.currency c.currency).run.runAlone answer s).1 = .ok converted ∧
            converted.value = c.amount.value := by
  have ended := Flow.Ensures.alone (transfer_alone calm.honest sound keyless countable) answer
  dsimp only
  rcases result : ((transfer r).run.runAlone answer s).1 with h | x
  · rw [result] at ended
    obtain ⟨kept, never⟩ := ended
    refine ⟨⟨by rintro ⟨_, ⟨⟩⟩, fun admits => (never calm admits).elim⟩, fun _ _ => kept, by rintro _ ⟨⟩⟩
  · rw [result] at ended
    obtain ⟨admits, c, credits, transferred⟩ := ended
    refine ⟨⟨fun _ => admits, fun _ => ⟨x, rfl⟩⟩, by rintro _ ⟨⟩, ?_⟩
    rintro _ ⟨⟩
    refine ⟨c, credits, transferred, fun id sent => ?_⟩
    obtain ⟨a, amount⟩ := admits.amount
    cases checkedAmount_same amount
    exact (convert_alone calm amount credits sent).succeeds answer

-- 10.01 at a rate of 0.50 come to 5.005 and so to 5.00.
def halved : TransferRequest :=
  ⟨none, Supply.wallet ⟨0⟩, .wallet (Supply.wallet ⟨4⟩), .ngn, .ofCents 1001 (by decide),
    .ofCents 49 (by decide), ""⟩

theorem transfers_halved :
    let s := (World.crossedWorld 50 (by decide)).server
    s.tables.Admits s.clock halved ∧ ∃ c x t, c.amount.value = 5 ∧
      c.rate = some (.ofCents 50 (by decide)) ∧ s.tables.Transferred halved c x t := by
  let s := (World.crossedWorld 50 (by decide)).server
  obtain ⟨w, d, rate, source, destination, known, balance, received, currency, worth⟩ :
      ∃ w d rate, s.tables.wallet? halved.sourceWalletId = some w ∧
        s.tables.wallet? (Supply.wallet ⟨4⟩) = some d ∧
        s.tables.rate? .ngn .usd s.clock = some rate ∧ w.balance = .ofCents 2490 (by decide) ∧
        d.balance = .ofCents 10 (by decide) ∧ d.currency = .usd ∧
        rate.rate = .ofCents 50 (by decide) := ⟨_, _, _, rfl, rfl, rfl, rfl, rfl, rfl, rfl⟩
  have held : s.tables.HeldIn (Supply.wallet ⟨4⟩) .usd := (Tables.heldIn_iff destination).mpr currency
  have rated : s.tables.Rated s.clock halved .usd (some (.ofCents 50 (by decide))) :=
    worth ▸ .foreign rfl held nofun known
  have credits : s.tables.Credits s.clock halved
      ⟨.usd, .ofCents 500 (by decide), some (.ofCents 50 (by decide))⟩ :=
    ⟨rated, ⟨false, 50050, 4, by decide, by decide⟩, by decide +kernel, by decide +kernel⟩
  have countable : halved.Countable s.clock s.tables := by
    refine ⟨⟨.ofCents 1050 (by decide), ?_⟩, fun _ x again => ?_, fun v there _ => ?_,
      fun id v c sent there again => ?_⟩
    · norm_num [Decimal.value, Decimal.units, Decimal.ofCents, halved]
    · obtain ⟨_, same⟩ := again.unique rated
      cases same
      refine ⟨⟨false, 5005, 3, by decide, by decide⟩, ?_⟩
      norm_num [Decimal.value, Decimal.units, Decimal.ofCents, halved]
    · cases source.symm.trans there
      refine ⟨.ofCents 1440 (by decide), ?_⟩
      rw [balance]
      norm_num [Decimal.value, Decimal.units, Decimal.ofCents, halved]
    · cases sent
      cases destination.symm.trans there
      refine ⟨.ofCents 510 (by decide), ?_⟩
      rw [received, again.unique credits]
      norm_num [Decimal.value, Decimal.units, Decimal.ofCents]
  have sound : ∀ v ∈ s.tables.wallets, ¬ v.balance < 0 :=
    fun v mem => ((World.run_balanced _).backed mem).covered
  obtain ⟨admitted, _, transfers⟩ :=
    transfers_just_where_admitted s ⟨rfl, rfl, rfl⟩ sound halved rfl countable World.silence
  have made : ((transfer halved).run.runAlone World.silence s).1.isOk = true := by decide +kernel
  rcases result : ((transfer halved).run.runAlone World.silence s).1 with h | x
  · rw [result] at made
    cases made
  · obtain ⟨c, again, transferred, _⟩ := transfers x result
    cases again.unique credits
    refine ⟨admitted.mp ⟨x, result⟩, _, x, _, ?_, rfl, transferred⟩
    norm_num [Decimal.value, Decimal.units, Decimal.ofCents]

end Transactions
end Treasury
