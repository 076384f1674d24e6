import Treasury.Proofs.Ledger.Movement
import Treasury.Proofs.Reward.Accounts
import Treasury.Proofs.World.Effects

namespace Treasury

namespace Tables

variable {g g' : Gauge} {t t' t'' : Tables} {id : TransactionId} {es : List Entry}

-- The new entries are of one transaction, and all but it and the wallets they name is as it was.
structure Appends (t : Tables) (id : TransactionId) (es : List Entry) (t' : Tables) : Prop where
  entries : t'.entries = t.entries ++ es
  own : ∀ e ∈ es, e.transactionId = id
  wallets : ∀ number w, t.wallet? number = some w → ∃ w', t'.wallet? number = some w' ∧
    w'.face = w.face ∧ ((∀ e ∈ es, e.account ≠ .wallet number) → w'.balance = w.balance)
  others : ∀ number, number ≠ id → t'.transaction? number = t.transaction? number

-- What becomes of the transaction that a unit of work is about.
inductive Writes (t : Tables) (id : TransactionId) (es : List Entry) (t' : Tables) : Prop where
  | nothing (silent : es = []) (same : t'.transactions = t.transactions) : Writes t id es t'
  | created (free : t.transaction? id = none) (after : t'.transaction? id = some r) : Writes t id es t'
  | touched (silent : es = []) (stored : t.transaction? id = some r)
      (after : t'.transaction? id = some { r with updatedAt := moment }) : Writes t id es t'
  | decided (c : SettleCall) (stored : t.transaction? id = some r) (mine : c.id = id)
      (current : r.status = c.expected) (moves : c.expected.canBecome c.outcome.status = true)
      (after : t'.transaction? id = some (r.Decided c noted moment)) : Writes t id es t'

theorem wallet?_face (faces : t'.wallets.map Wallet.face = t.wallets.map Wallet.face) (id : WalletId) :
    (t'.wallet? id).map Wallet.face = (t.wallet? id).map Wallet.face := by
  have through (rows : List Wallet) : (Rows.find? Wallet.id id rows).map Wallet.face =
      (rows.map Wallet.face).find? fun f => f.1 = id := by
    rw [List.find?_map]
    rfl
  rw [wallet?, wallet?, through, through, faces]

namespace Appends

theorem comp (first : t.Appends id es t') (second : t'.Appends id es' t'') :
    t.Appends id (es ++ es') t'' := by
  refine ⟨?_, ?_, ?_, ?_⟩
  · rw [second.entries, first.entries, List.append_assoc]
  · intro e mem
    exact (List.mem_append.mp mem).elim (first.own e) (second.own e)
  · intro number w stored
    obtain ⟨w', stored', face, kept⟩ := first.wallets number w stored
    obtain ⟨w'', stored'', face', kept'⟩ := second.wallets number w' stored'
    refine ⟨w'', stored'', face'.trans face, ?_⟩
    intro unnamed
    rw [kept' fun e mem => unnamed e (List.mem_append_right _ mem)]
    exact kept fun e mem => unnamed e (List.mem_append_left _ mem)
  · intro number other
    exact (second.others number other).trans (first.others number other)

theorem of_same_books (id : TransactionId) (books : t.SameBooks t') : t.Appends id [] t' := by
  refine ⟨by rw [books.entries, List.append_nil], List.forall_mem_nil _, ?_, ?_⟩
  · intro number w stored
    rw [wallet?, books.wallets]
    exact ⟨w, stored, rfl, fun _ => rfl⟩
  · intro number _
    rw [transaction?, books.transactions]
    rfl

theorem withTransaction (r : Transaction) : t.Appends r.id [] (t.withTransaction r) := by
  refine ⟨(List.append_nil _).symm, List.forall_mem_nil _, ?_, ?_⟩
  · exact fun _ w stored => ⟨w, stored, rfl, fun _ => rfl⟩
  · intro number other
    exact (Rows.find?_put number).trans (if_neg other.symm)

theorem withChanged {change : Transaction → Transaction} (keeps : ∀ r, (change r).id = r.id)
    (id : TransactionId) (moment : Instant) : t.Appends id [] (t.withChanged id change moment) := by
  refine ⟨(List.append_nil _).symm, List.forall_mem_nil _, ?_, ?_⟩
  · exact fun _ w stored => ⟨w, stored, rfl, fun _ => rfl⟩
  · intro number other
    exact Rows.find?_amend_other (by intro r _; exact keeps r) other

theorem withWallet (id : TransactionId) (free : t.wallet? w.id = none) :
    t.Appends id [] (t.withWallet w) := by
  refine ⟨(List.append_nil _).symm, List.forall_mem_nil _, ?_, fun _ _ => rfl⟩
  intro number x stored
  have other : w.id ≠ number := by
    intro same
    rw [same, stored] at free
    cases free
  refine ⟨x, ?_, rfl, fun _ => rfl⟩
  rw [wallet?, Tables.withWallet, Rows.find?_append_new free, if_neg other]
  exact stored

theorem withStatus (id : TransactionId) (number : WalletId) (status : WalletStatus) (moment : Instant) :
    t.Appends id [] (t.withStatus number status moment) := by
  refine ⟨(List.append_nil _).symm, List.forall_mem_nil _, ?_, fun _ _ => rfl⟩
  intro other w stored
  have found : (t.withStatus number status moment).wallet? other = (t.wallet? other).map fun w =>
      if w.id = number then { w with status, updatedAt := moment } else w :=
    Rows.find?_amend (by intros; rfl) other
  rw [stored, Option.map_some] at found
  refine ⟨_, found, ?_⟩
  split <;> exact ⟨rfl, fun _ => rfl⟩

end Appends
end Tables

theorem Books.appends {id : TransactionId} (books : Books id t legs t') : ∃ es, t.Appends id es t' := by
  obtain ⟨es, appended, own, lines⟩ := books.entries
  refine ⟨es, appended, own, ?_, ?_⟩
  · intro number w stored
    have face := Tables.wallet?_face books.faces number
    rw [stored, Option.map_some, Option.map_eq_some_iff] at face
    obtain ⟨w', stored', same⟩ := face
    refine ⟨w', stored', same, ?_⟩
    intro unnamed
    rw [books.wallet?_other, stored] at stored'
    · cases stored'
      rfl
    · intro leg mem named
      have line : leg.line ∈ es.map Entry.line := lines ▸ List.mem_map_of_mem mem
      obtain ⟨e, there, same⟩ := List.mem_map.mp line
      have account : e.account = leg.line.account := congrArg Line.account same
      exact unnamed e there (account.trans named)
  · intro number _
    rw [Tables.transaction?, books.transactions]
    rfl

theorem Created.appends (created : Created g t g' r legs t') : ∃ es, t.Appends r.id es t' := by
  obtain ⟨es, booked⟩ := created.books.appends
  exact ⟨[] ++ es, .comp (.withTransaction r) booked⟩

namespace Tables

variable {g g' : Gauge} {t t' : Tables}

theorem touched_record {id : TransactionId} (stored : t.transaction? id = some r) :
    (t.withTouched id moment).transaction? id = some { r with updatedAt := moment } := by
  rw [withTouched, transaction?_withChanged fun _ => rfl, stored, Option.map_some,
    if_pos (Rows.key_of_find? stored)]

theorem BookStep.writes (orderly : t.Orderly g) (distinct : g'.Distinct) (later : g.Before g')
    (step : BookStep g t g' t') : ∃ id es, t.Appends id es t' ∧ t.Writes id es t' := by
  -- Where nothing is written, no transaction is named.
  have idle {t' : Tables} (appends : t.Appends (Supply.transaction ⟨0⟩) [] t')
      (same : t'.transactions = t.transactions) : ∃ id es, t.Appends id es t' ∧ t.Writes id es t' :=
    ⟨_, _, appends, .nothing rfl same⟩
  cases step with
  | same books => exact idle (.of_same_books _ books) books.transactions
  | opened _ _ _ _ _ free => exact idle (.withWallet _ free) rfl
  | restated => exact idle (.withStatus ..) rfl
  | created before created after =>
    obtain ⟨es, appends⟩ := created.appends
    have booked := ((Appends.of_same_books _ before).comp appends).comp (.of_same_books _ after)
    have free := (orderly.same_books before).fresh distinct later created.issued
    rw [transaction?, before.transactions] at free
    have there := created.stored
    rw [transaction?, ← after.transactions] at there
    exact ⟨_, _, booked, .created free.1 there⟩
  | touched stored =>
    exact ⟨_, [], .withChanged (fun _ => rfl) _ _, .touched rfl stored (touched_record stored)⟩

theorem Settles.writes (settles : Settles c t answer (some t')) :
    ∃ id es, t.Appends id es t' ∧ t.Writes id es t' := by
  cases settles with
  | touched stored =>
    exact ⟨_, [], .withChanged (fun _ => rfl) _ _, .touched rfl stored (touched_record stored)⟩
  | @decided r _ noted t₁ moment stored current moves _ books =>
    obtain ⟨es, appends⟩ := books.appends
    have after : (t₁.withChanged c.id (c.update r noted).apply moment).transaction? c.id =
        some (r.Decided c noted moment) := decided_record stored books
    refine ⟨c.id, _, appends.comp (.withChanged ?_ _ _), .decided c stored rfl current moves after⟩
    exact fun _ => rfl

theorem Step.writes (orderly : t.Orderly g) (distinct : g'.Distinct) (later : g.Before g')
    (step : Step g t g' t') : ∃ id es, t.Appends id es t' ∧ t.Writes id es t' := by
  cases step with
  | change change => exact BookStep.writes orderly distinct later change.books
  | settle c settles => exact Settles.writes settles

theorem earnings?_written {e : Earnings} {user other : Int} (moment : Instant) (own : e.userId = user)
    (apart : other ≠ user)
    (rows : t'.earnings = ((t.withLocked user moment).withEarnings e).earnings) :
    t'.earnings? other = t.earnings? other := by
  rw [earnings?, rows, withEarnings, Rows.find?_put, own, if_neg apart.symm]
  unfold withLocked
  split
  · rfl
  · rename_i missing
    have free : Rows.find? Earnings.userId user t.earnings = none := by simpa [earnings?] using missing
    have found : Rows.find? Earnings.userId other (t.earnings ++ [.empty user moment]) =
        if user = other then some (.empty user moment) else t.earnings? other :=
      Rows.find?_append_new free other
    exact found.trans (if_neg apart.symm)

end Tables

-- The rows that are an operation's business.
def Operation.Scope (t t' : Tables) : Operation → Prop
  | .openWallet .. | .requestWallet .. | .setWalletStatus .. => t' = { t with wallets := t'.wallets }
  | .recordRate _ => t' = { t with rates := t'.rates }
  | .deposit _ | .transfer _ | .purchaseGiftCard .. | .payOut .. | .sendCrypto .. | .settle _
  | .defer .. | .reconcile .. =>
    t' = { t with
      wallets := t'.wallets, transactions := t'.transactions, entries := t'.entries }
  | .trackReferral referrer referee _ =>
    t' = { t with referrals := t'.referrals, earnings := t'.earnings } ∧
      (∀ user, user ≠ referrer → t'.earnings? user = t.earnings? user) ∧
      ∀ other, other ≠ referee → t'.referral? other = t.referral? other
  | .requestWithdrawal _ user _ =>
    t' = { t with earnings := t'.earnings, withdrawals := t'.withdrawals } ∧
      (∀ other, other ≠ user → t'.earnings? other = t.earnings? other) ∧
      ∃ w : Withdrawal, w.userId = user ∧ t.withdrawal? w.id = none ∧
        ∀ id, id ≠ w.id → t'.withdrawal? id = t.withdrawal? id
  | .updateWithdrawal id _ =>
    t' = { t with
      wallets := t'.wallets, transactions := t'.transactions, entries := t'.entries
      earnings := t'.earnings, withdrawals := t'.withdrawals } ∧
      (∃ w, t.withdrawal? id = some w ∧
        ∀ user, user ≠ w.userId → t'.earnings? user = t.earnings? user) ∧
      (∀ other, other ≠ id → t'.withdrawal? other = t.withdrawal? other) ∧
      (t'.transactions = t.transactions ∨ ∃ r, t'.transactions = t.transactions ++ [r])
  | .sweepCatalog _ =>
    t' = { t with
      brands := t'.brands, categories := t'.categories, countries := t'.countries
      products := t'.products, logoUrls := t'.logoUrls, denominations := t'.denominations
      redeemInstructions := t'.redeemInstructions }
  | .wallet _ | .walletOf .. | .verifyWallet _ | .rate .. | .convert .. | .transaction _ | .entries _
  | .earnings _ | .withdrawal _ => t' = t

variable {g g' : Gauge} {t t' : Tables}

theorem Created.scope (created : Created g t g' r legs t') :
    t' = { t with
      wallets := t'.wallets, transactions := t'.transactions, entries := t'.entries } := by
  rw [created.frame]

theorem Settles.scope (settles : Settles c t answer (some t')) :
    t' = { t with
      wallets := t'.wallets, transactions := t'.transactions, entries := t'.entries } := by
  cases settles with
  | touched => rfl
  | decided _ _ _ _ books =>
    rw [Tables.withChanged, books.frame]

theorem Payment.scope (payment : Payment names key g t g' t') :
    t' = { t with
      wallets := t'.wallets, transactions := t'.transactions, entries := t'.entries } := by
  cases payment with
  | reserved created => exact created.scope
  | settled c settles => exact settles.scope
  | deferred => rfl

theorem Rewards.Tracks.scope (tracks : Tracks referrer referee bonus g t r g' (some t')) :
    Operation.Scope t t' (.trackReferral referrer referee bonus) := by
  unfold Operation.Scope
  cases tracks with
  | @tracked _ _ _ e moment _ _ e' _ _ issued free shape locked earned more row =>
    have own : e'.userId = referrer := by
      rw [row, locked]
      exact Tables.lockedEarnings_userId t referrer moment
    refine ⟨?_, ?_, ?_⟩
    · rw [Tables.withLocked_frame]
      rfl
    · intro user apart
      apply Tables.earnings?_written moment own apart
      exact congrArg (Rows.put Earnings.userId e')
        (Tables.withLocked_earnings t (t.withReferral r) rfl referrer moment)
    · intro other apart
      have referee : r.refereeId = referee := by rw [shape]
      subst referee
      rw [Tables.withLocked_frame]
      have found : Rows.find? Referral.refereeId other (t.referrals ++ [r]) =
          if r.refereeId = other then some r else t.referral? other := Rows.find?_append_new free other
      exact found.trans (if_neg apart.symm)

theorem Rewards.Requests.scope (filed : t.Filed g) (apart : g'.Apart Supply.withdrawal)
    (later : g.Before g') (requests : Requests policy user amount g t w g' (some t')) :
    Operation.Scope t t' (.requestWithdrawal policy user amount) := by
  unfold Operation.Scope
  cases requests with
  | @requested _ _ e moment _ _ e' _ _ _ issued locked enough settles less row consistent shape =>
    have own : e'.userId = user := by
      rw [row, locked]
      exact Tables.lockedEarnings_userId t user moment
    refine ⟨?_, ?_, w, by rw [shape], ?_, ?_⟩
    · rw [Tables.withLocked_frame]
      rfl
    · intro other elsewhere
      exact Tables.earnings?_written moment own elsewhere rfl
    · rw [shape]
      exact filed.fresh apart later issued
    · intro id other
      rw [Tables.withLocked_frame]
      exact (Rows.find?_put id).trans (if_neg other.symm)

theorem Rewards.Decides.scope {id : WithdrawalId} (orderly : t.Orderly g) (distinct : g'.Distinct)
    (later : g.Before g') (decides : Decides id status g t w g' (some t')) :
    Operation.Scope t t' (.updateWithdrawal id status) := by
  unfold Operation.Scope
  cases decides with
  | @decided w e moment _ e' payout t₁ e'' _ decided _ stored moves locked carries row =>
    have own : e''.userId = w.userId := by
      rw [row]
      change e'.userId = _
      rw [carries.userId, locked]
      exact Tables.lockedEarnings_userId t w.userId moment
    refine ⟨?_, ⟨w, stored, ?_⟩, ?_, ?_⟩
    · rw [carries.frame, Tables.withLocked_frame]
      rfl
    · intro user apart
      apply Tables.earnings?_written moment own apart
      rw [carries.frame]
      rfl
    · intro other apart
      have rows := carries.rows id e'' decided
      rw [Tables.withdrawal?, rows]
      exact Rows.find?_amend_other (by intros; rfl) apart
    · change t₁.transactions = _ ∨ ∃ r, t₁.transactions = _
      cases carries with
      | completed held shape created =>
        have locks := Tables.SameBooks.withLocked (t := t) w.userId moment
        have free := (orderly.same_books locks).fresh distinct later created.issued
        rw [created.frame, ← locks.transactions]
        exact .inr ⟨_, Rows.put_new free.1⟩
      | _ =>
        rw [Tables.withLocked_frame]
        exact .inl rfl

theorem Operation.Effect.scope {operation : Operation} (orderly : t.Orderly g) (filed : t.Filed g)
    (distinct : g'.Distinct) (apart : g'.Apart Supply.withdrawal) (later : g.Before g')
    (effect : operation.Effect g t g' t') : operation.Scope t t' := by
  cases operation with
  | openWallet =>
    obtain ⟨w, _, rfl⟩ := effect
    exact rfl
  | requestWallet =>
    obtain ⟨w, _, rfl⟩ := effect
    exact rfl
  | setWalletStatus =>
    obtain ⟨moment, rfl⟩ := effect
    exact rfl
  | recordRate r =>
    cases effect
    exact rfl
  | deposit =>
    obtain ⟨r, legs, created, _⟩ := effect
    exact created.scope
  | transfer =>
    obtain ⟨r, legs, created, _⟩ := effect
    exact created.scope
  | purchaseGiftCard => exact Payment.scope effect
  | payOut => exact Payment.scope effect
  | sendCrypto => exact Payment.scope effect
  | reconcile => exact Payment.scope effect
  | settle =>
    obtain ⟨answer, settles⟩ := effect
    exact settles.scope
  | defer =>
    obtain ⟨moment, rfl⟩ := effect
    exact rfl
  | trackReferral =>
    obtain ⟨r, tracks⟩ := effect
    exact tracks.scope
  | requestWithdrawal =>
    obtain ⟨w, requests⟩ := effect
    exact requests.scope filed apart later
  | updateWithdrawal =>
    obtain ⟨w, decides⟩ := effect
    exact decides.scope orderly distinct later
  | sweepCatalog =>
    obtain ⟨item, moment, rfl⟩ := effect
    exact rfl
  | _ => cases effect

namespace World

theorem Ordered.final_kept {w : World} {id : TransactionId} {r : Transaction} (ordered : w.Ordered)
    (events : List Event) (distinct : (w.after events).server.gauge.Distinct)
    (stored : w.server.tables.transaction? id = some r) (final : r.status.isFinal = true) :
    ∃ r', (w.after events).server.tables.transaction? id = some r' ∧ r'.untimed = r.untimed := by
  induction events generalizing w r with
  | nil => exact ⟨r, stored, rfl⟩
  | cons e rest ih =>
    have next := distinct.before ((ordered.sound.take e).1.issued rest)
    obtain ⟨r', there, same⟩ := (ordered.rested next stored final).after stored
    have status := congrArg Transaction.status same
    obtain ⟨r'', there', same'⟩ := ih (ordered.take next) distinct there (status ▸ final)
    exact ⟨r'', there', same'.trans same⟩

-- What one event among others leaves alone.
structure Framed (early : List Event) (e : Event) (late : List Event) : Prop where
  books : ∃ id es, (run early).server.tables.Appends id es (run (early ++ [e])).server.tables ∧
    (run early).server.tables.Writes id es (run (early ++ [e])).server.tables
  scope : (run (early ++ [e])).server.tables = (run early).server.tables ∨
    ∃ i operation, e = .advance i ∧ (begun early)[i]? = some operation ∧
      operation.Scope (run early).server.tables (run (early ++ [e])).server.tables
  final : ∀ id r, (run early).server.tables.transaction? id = some r → r.status.isFinal = true →
    ∃ r', (run (early ++ e :: late)).server.tables.transaction? id = some r' ∧ r'.untimed = r.untimed

-- Whatever is done in whatever order, each unit of work appends to the ledger for one transaction
-- at most, leaves the others and the wallets it does not name as they were, and keeps to its rows.
-- What is over stays over, but for the time of its last change.
theorem run_framed (early : List Event) (e : Event) (late : List Event)
    (distinct : (run (early ++ e :: late)).server.gauge.Distinct)
    (apart : (run (early ++ e :: late)).server.gauge.Apart Supply.withdrawal) :
    Framed early e late := by
  have whole : early ++ e :: late = (early ++ [e]) ++ late := by simp
  have next : (run (early ++ [e])).server.gauge.Distinct := distinct_early (whole ▸ distinct)
  have before := distinct_early next
  have ordered := run_ordered early before
  refine ⟨?_, ?_, ?_⟩
  · obtain ⟨later, step⟩ := ordered.sound.step e
    rw [run_snoc] at next ⊢
    exact Tables.Step.writes ordered.orderly next later step
  · refine (run_effect early e next).imp_right ?_
    intro done
    obtain ⟨i, operation, mine, begun, effect⟩ := done
    rw [whole, run_append] at apart
    have apart := apart.before ((run_sound (early ++ [e])).issued late)
    have later := ordered.sound.issued [e]
    rw [← run_append] at later
    exact ⟨i, operation, mine, begun,
      effect.scope ordered.orderly (run_filed early (apart.before later)) next apart later⟩
  · intro id r stored final
    rw [run_append] at distinct ⊢
    exact ordered.final_kept (e :: late) distinct stored final

-- A payout is given back in three entries, and then somebody puts it behind the others.
def givenBackEvents : List Event := (payoutEvents (.failed "closed" none)).dropLast

def deferredEvents : List Event :=
  [.begin (.defer (Supply.transaction ⟨4⟩) .failed), .advance 3]

theorem run_framed_compensated :
    (run (givenBackEvents ++ [.advance 2])).server.tables.entries.length =
      (run givenBackEvents).server.tables.entries.length + 3 ∧
    Framed givenBackEvents (.advance 2) deferredEvents :=
  ⟨by decide +kernel, run_framed _ _ _ (Gauge.distinct_of_le (by decide +kernel))
    (Gauge.apart_withdrawal (by decide +kernel))⟩

end World
end Treasury
