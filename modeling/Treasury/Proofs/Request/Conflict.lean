import Treasury.Proofs.Request.Reserving

namespace Treasury

-- No two records carry the same key.
def Tables.Keyed (t : Tables) : Prop :=
  ∀ k, ∀ r ∈ t.transactions, ∀ r' ∈ t.transactions,
    r.idempotencyKey = some k → r'.idempotencyKey = some k → r' = r

namespace Tables.Keyed

variable {t t' : Tables}

theorem found (keyed : t.Keyed) (mem : r ∈ t.transactions) (key : r.idempotencyKey = some k) :
    t.transactionOf? k = some r := by
  cases found : t.transactionOf? k with
  | none => exact absurd key (by simpa using List.find?_eq_none.mp found r mem)
  | some r' =>
    have same : r'.idempotencyKey = some k := by simpa using List.find?_some found
    rw [keyed k r mem r' (List.mem_of_find?_eq_some found) key same]

theorem transactionOf?_iff (keyed : t.Keyed) :
    t.transactionOf? k = some r ↔ r ∈ t.transactions ∧ r.idempotencyKey = some k := by
  refine ⟨fun found => ⟨List.mem_of_find?_eq_some found, ?_⟩, fun here => keyed.found here.1 here.2⟩
  simpa using List.find?_some found

theorem reordered (keyed : t.Keyed) (perm : t'.transactions.Perm t.transactions) : t'.Keyed :=
  fun k r mem r' mem' => keyed k r (perm.mem_iff.mp mem) r' (perm.mem_iff.mp mem')

theorem of_same (keyed : t.Keyed) (transactions : t'.transactions = t.transactions) : t'.Keyed := by
  unfold Keyed
  rw [transactions]
  exact keyed

theorem withTransaction (keyed : t.Keyed)
    (free : ∀ k, r.idempotencyKey = some k → t.transactionOf? k = none) :
    (t.withTransaction r).Keyed := by
  have fresh {k : String} {x : Transaction} (mine : r.idempotencyKey = some k)
      (old : x ∈ t.transactions) : x.idempotencyKey ≠ some k := by
    simpa using List.find?_eq_none.mp (free k mine) x old
  intro k x mem y mem' key key'
  rcases Rows.mem_put mem with rfl | ⟨old, _⟩ <;> rcases Rows.mem_put mem' with rfl | ⟨old', _⟩
  · rfl
  · exact absurd key' (fresh key old')
  · exact absurd key (fresh key' old)
  · exact keyed k x old y old' key key'

theorem created (keyed : t.Keyed) (created : Created g t g' r legs t') : t'.Keyed := by
  rw [created.frame]
  exact (keyed.withTransaction created.free).of_same rfl

theorem changed (keyed : t.Keyed) {change : Transaction → Transaction}
    (keeps : ∀ r, (change r).idempotencyKey = r.idempotencyKey) (id : TransactionId)
    (moment : Instant) : (t.withChanged id change moment).Keyed := by
  intro k x mem y mem' key key'
  obtain ⟨r, old, rfl⟩ := List.mem_map.mp mem
  obtain ⟨r', old', rfl⟩ := List.mem_map.mp mem'
  have carries {z : Transaction} :
      (if z.id = id then { change z with updatedAt := moment } else z).idempotencyKey =
        z.idempotencyKey := by
    split
    · exact keeps z
    · rfl
  rw [keyed k r old r' old' (carries ▸ key) (carries ▸ key')]

theorem step (keyed : t.Keyed) (step : Step g t g' t') : t'.Keyed := by
  cases step with
  | change change =>
    cases change.books with
    | same books => exact keyed.of_same books.transactions
    | opened => exact keyed.of_same rfl
    | restated => exact keyed.of_same rfl
    | created before created after =>
      exact ((keyed.of_same before.transactions).created created).of_same after.transactions
    | touched => exact keyed.changed (fun _ => rfl) _ _
  | settle c settles =>
    cases settles with
    | touched => exact keyed.changed (fun _ => rfl) _ _
    | decided _ _ _ _ books =>
      refine changed (keyed.of_same books.transactions) ?_ _ _
      exact fun _ => rfl

end Tables.Keyed

namespace World

open Request

theorem run_keyed (events : List Event) : (run events).server.tables.Keyed :=
  Sound.start.induct (I := fun _ t => t.Keyed) (fun _ _ _ _ _ step keyed => keyed.step step)
    (by rintro _ _ ⟨⟩) events

-- In every state of every run, a request under the key of another operation is refused. It changes
-- nothing and calls nobody.
theorem run_conflict (events : List Event) (q : Request) (g : Transactions.Gateway) (k : String)
    (r : Transaction) (stored : r ∈ (run events).server.tables.transactions)
    (held : r.idempotencyKey = some k) (keyed : q.key = some k)
    (other : r.kind ≠ q.purpose.kind ∨ r.walletId ≠ q.purpose.wallet)
    (strict : ∀ request, q ≠ .giftCard request) (calm : (run events).server.Calm)
    (clear : q.Clear g.providers (run events).server.clock (run events).server.tables)
    (converts : q.Converts (run events).server.clock (run events).server.tables) :
    q.Merely g (run events).server (.error (.refused (.idempotencyConflict k))) := by
  refine merely_conflicts (run_sound events).honest calm keyed ((run_keyed events).found stored held)
    (fun accepts => ?_) clear converts
  have differs : r.purpose ≠ q.purpose := Transaction.purpose_ne.mpr other
  cases q with
  | giftCard request => exact strict request rfl
  | _ => exact differs accepts

-- A wallet is opened and receives 33000.00 under a key.
def keyedEvents : List Event :=
  [.begin (.openWallet 7 .ngn .personal), .advance 0,
    .begin (.deposit ⟨some "k", Supply.wallet ⟨0⟩, .ngn, .ofCents 3300000 (by decide), "bank", ""⟩),
    .advance 1]

theorem run_conflict_payout :
    ∃ r ∈ (run keyedEvents).server.tables.transactions, r.kind = .deposit ∧
      bankPayout.Merely bankGateway (run keyedEvents).server
        (.error (.refused (.idempotencyConflict "k"))) :=
  ⟨_, List.mem_singleton.mpr rfl, rfl,
    run_conflict keyedEvents bankPayout bankGateway "k" _ (List.mem_singleton.mpr rfl) rfl rfl
      (.inl nofun) nofun ⟨rfl, rfl, rfl⟩ ⟨⟨_, rfl⟩, ⟨_, rfl⟩, ⟨_, rfl⟩, rfl⟩ trivial⟩

-- A card of 15.00 dollars that is sold for 16000.00.
def gameCard : VendorItem :=
  ⟨10, "Card", false, .fixed, "USD", "NGN", 0, 0, none, none, none, [.ofCents 1500 (by decide)],
    [.ofCents 1600000 (by decide)], [], ⟨3, "Brand"⟩, ⟨4, "Gaming"⟩, ⟨"US", "United States", none⟩,
    ⟨none, none⟩⟩

def giftEvents : List Event :=
  keyedEvents ++ [.begin (.sweepCatalog 50), .page 2 (.ok ⟨[gameCard], 0, 1⟩), .advance 2, .advance 2]

def cardRequest : GiftCardRequest :=
  ⟨some "k", Supply.wallet ⟨0⟩, 10, 1, .ofCents 1500 (by decide), none, ""⟩

-- A gift card purchase that finds all it needs is answered with the deposit that has its key.
theorem gift_card_takes_deposit :
    ¬ ∀ (events : List Event) (q : Request) (g : Transactions.Gateway) (k : String) (r : Transaction),
      r ∈ (run events).server.tables.transactions → r.idempotencyKey = some k → q.key = some k →
      r.kind ≠ q.purpose.kind ∨ r.walletId ≠ q.purpose.wallet → (run events).server.Calm →
      q.Clear g.providers (run events).server.clock (run events).server.tables →
      q.Converts (run events).server.clock (run events).server.tables →
      (∀ request, q = .giftCard request → ((Transactions.quote request).run.runAlone silence
        (run events).server).1.isOk = true) →
      q.Merely g (run events).server (.error (.refused (.idempotencyConflict k))) := by
  intro refuses
  have rows : (run giftEvents).server.tables.transactions.map
      (fun r => (r.idempotencyKey, r.kind)) = [(some "k", .deposit)] := by decide +kernel
  obtain ⟨r, stored, shape⟩ := List.mem_map.mp (rows ▸ List.mem_singleton.mpr rfl)
  obtain ⟨held, kind⟩ := Prod.mk.inj shape
  have calm : (run giftEvents).server.Calm :=
    ⟨by decide +kernel, by decide +kernel, by decide +kernel⟩
  have clear : ∀ now t, (Request.giftCard cardRequest).Clear ⟨some "cards", none, none⟩ now t :=
    fun _ _ => ⟨by decide, by decide, _, rfl⟩
  have refused := refuses giftEvents (.giftCard cardRequest) ⟨⟨some "cards", none, none⟩, 1000⟩ "k" r
    stored held rfl (.inl (by rw [kind]; nofun)) calm (clear _ _) trivial
    (by rintro _ ⟨⟩; decide +kernel)
  have taken := merely_replays (q := .giftCard cardRequest) (g := ⟨⟨some "cards", none, none⟩, 1000⟩)
    (run_sound giftEvents).honest calm rfl ((run_keyed giftEvents).found stored held) trivial
    (clear _ _) trivial
  cases (refused silence).1.symm.trans (taken silence).1

end World
end Treasury
