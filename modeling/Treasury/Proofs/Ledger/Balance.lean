import Treasury.Proofs.World.Steps

namespace Treasury

-- The balances noted on entries are the running ones, and none of them is negative.
inductive Running : Decimal → List Entry → Decimal → Prop where
  | nil : Running b [] b
  | cons (sum : b.add e.amount = .ok b') (noted : e.balanceAfter = some b') (above : ¬ b' < 0)
      (rest : Running b' es last) : Running b (e :: es) last

namespace Running

theorem snoc (running : Running b es last) (sum : last.add e.amount = .ok b')
    (noted : e.balanceAfter = some b') (above : ¬ b' < 0) : Running b (es ++ [e]) b' := by
  induction running with
  | nil => exact .cons sum noted above .nil
  | cons sum' noted' above' _ ih => exact .cons sum' noted' above' (ih sum)

theorem sum (running : Running b es last) : (es.map (·.amount)).foldlM Decimal.add b = .ok last := by
  induction running with
  | nil => rfl
  | cons sum _ _ _ ih =>
    rw [List.map_cons, List.foldlM_cons, sum]
    exact ih

theorem not_neg (running : Running b es last) (start : ¬ b < 0) : ¬ last < 0 := by
  induction running with
  | nil => exact start
  | cons _ _ above _ ih => exact ih above

theorem at_ (running : Running b es last) (there : es[k]? = some e) :
    ∃ after, ((es.take (k + 1)).map (·.amount)).foldlM Decimal.add b = .ok after ∧
      e.balanceAfter = some after ∧ ¬ after < 0 := by
  induction running generalizing k with
  | nil => cases there
  | cons sum noted above rest ih =>
    cases k with
    | zero =>
      cases there
      refine ⟨_, ?_, noted, above⟩
      rw [List.take_succ_cons, List.take_zero, List.map_cons, List.foldlM_cons, sum]
      rfl
    | succ k =>
      obtain ⟨after, total, noted', above'⟩ := ih there
      refine ⟨after, ?_, noted', above'⟩
      rw [List.take_succ_cons, List.map_cons, List.foldlM_cons, sum]
      exact total

theorem final (running : Running b es b') (there : es.getLast? = some e) :
    e.balanceAfter = some b' := by
  induction running with
  | nil => cases there
  | cons _ noted _ rest ih =>
    cases rest with
    | nil =>
      cases there
      exact noted
    | cons => exact ih (by simpa using there)

end Running

-- Every wallet stands once, with the running balance of its entries, and every entry on a wallet
-- is on one that is there.
structure Tables.Balanced (t : Tables) : Prop where
  single : (t.wallets.map Wallet.id).Nodup
  running : ∀ w ∈ t.wallets, Running 0 (t.walletEntries w.id) w.balance
  known : ∀ e ∈ t.entries, ∀ id, e.account = .wallet id → id ∈ t.wallets.map Wallet.id

namespace Tables

variable {t t' : Tables} {id : TransactionId}

theorem walletEntries_append (same : t'.entries = t.entries ++ [e]) (w : WalletId) :
    t'.walletEntries w =
      if e.account = .wallet w then t.walletEntries w ++ [e] else t.walletEntries w := by
  unfold walletEntries
  rw [same, List.filter_append]
  by_cases mine : e.account = .wallet w <;> simp [mine]

namespace Balanced

theorem empty : Tables.empty.Balanced := ⟨.nil, by rintro _ ⟨⟩, by rintro _ ⟨⟩⟩

theorem of_same (balanced : t.Balanced) (wallets : t'.wallets = t.wallets)
    (entries : t'.entries = t.entries) : t'.Balanced := by
  have logs : t'.walletEntries = t.walletEntries := by
    unfold walletEntries
    rw [entries]
  exact ⟨by rw [wallets]; exact balanced.single, by rw [wallets, logs]; exact balanced.running,
    by rw [wallets, entries]; exact balanced.known⟩

theorem found (balanced : t.Balanced) (mem : w ∈ t.wallets) : t.wallet? w.id = some w :=
  Rows.find?_of_mem balanced.single mem

theorem opened (balanced : t.Balanced) (free : t.wallet? w.id = none) (empty : w.balance = 0) :
    (t.withWallet w).Balanced := by
  have new : w.id ∉ t.wallets.map Wallet.id := Rows.find?_none.mp free
  refine ⟨Rows.nodup_append_new balanced.single free, fun v mem => ?_, fun e mem id on => ?_⟩
  · rcases List.mem_append.mp mem with old | fresh
    · exact balanced.running v old
    · rw [List.mem_singleton] at fresh
      subst fresh
      have none : (t.withWallet v).walletEntries v.id = [] := by
        refine List.filter_eq_nil_iff.mpr fun e there on => new ?_
        exact balanced.known e there v.id (by simpa using on)
      rw [none, empty]
      exact .nil
  · have old := balanced.known e mem id on
    simp only [withWallet, List.map_append, List.mem_append]
    exact .inl old

theorem amended (balanced : t.Balanced) {id : WalletId} {change : Wallet → Wallet}
    (keeps : ∀ w, (change w).id = w.id ∧ (change w).balance = w.balance)
    (wallets : t'.wallets = Rows.amend Wallet.id id change t.wallets)
    (entries : t'.entries = t.entries) : t'.Balanced := by
  have keys : t'.wallets.map Wallet.id = t.wallets.map Wallet.id := by
    rw [wallets, Rows.map_amend fun w _ => (keeps w).1]
  have logs : t'.walletEntries = t.walletEntries := by
    unfold walletEntries
    rw [entries]
  refine ⟨by rw [keys]; exact balanced.single, fun w mem => ?_, by
    rw [keys, entries]; exact balanced.known⟩
  rw [wallets] at mem
  rw [logs]
  rcases Rows.mem_amend.mp mem with ⟨old, _⟩ | ⟨old, there, _, rfl⟩
  · exact balanced.running w old
  · rw [(keeps old).1, (keeps old).2]
    exact balanced.running old there

theorem posts (balanced : t.Balanced) (posts : Posts id t leg t') : t'.Balanced := by
  have keys : t'.wallets.map Wallet.id = t.wallets.map Wallet.id := by
    have faces := congrArg (List.map Prod.fst) posts.faces
    rw [List.map_map, List.map_map] at faces
    exact faces
  cases posts with
  | counterparty outside =>
    refine ⟨balanced.single, fun w mem => ?_, fun e mem number on => ?_⟩
    · rw [walletEntries_append rfl, if_neg]
      · exact balanced.running w mem
      · rintro rfl
        cases outside
    · rcases List.mem_append.mp mem with old | new
      · exact balanced.known e old number on
      · rw [List.mem_singleton] at new
        subst new
        cases on
        cases outside
  | wallet m made stored accepted =>
    have there := Rows.mem_of_find? stored
    refine ⟨by rw [keys]; exact balanced.single, fun w mem => ?_, fun e mem number on => ?_⟩
    · rw [walletEntries_append rfl]
      rcases Rows.mem_amend.mp mem with ⟨old, other⟩ | ⟨old, mem', same, rfl⟩
      · rw [if_neg fun same => other (Account.wallet.inj same).symm]
        exact balanced.running w old
      -- The row that moves is the copy that the movement was made from.
      · have copy : old = m.wallet := by
          have found := balanced.found mem'
          rw [same, stored] at found
          exact (Option.some.inj found).symm
        subst copy
        rw [if_pos rfl]
        exact (balanced.running _ there).snoc made.adds rfl accepted
    · rw [keys]
      rcases List.mem_append.mp mem with old | new
      · exact balanced.known e old number on
      · rw [List.mem_singleton] at new
        subst new
        cases on
        exact List.mem_map_of_mem there

theorem books (balanced : t.Balanced) (books : Books id t legs t') : t'.Balanced := by
  induction books with
  | nil => exact balanced
  | cons posts _ ih => exact ih (balanced.posts posts)

theorem created (balanced : t.Balanced) (created : Created g t g' r legs t') : t'.Balanced := by
  have noted : (t.withTransaction r).Balanced := balanced.of_same rfl rfl
  exact noted.books created.books

theorem step (balanced : t.Balanced) (step : Step g t g' t') : t'.Balanced := by
  cases step with
  | change change =>
    cases change.books with
    | same books => exact balanced.of_same books.wallets books.entries
    | opened _ _ _ _ _ free => exact balanced.opened free rfl
    | restated => exact balanced.amended (by intro; exact ⟨rfl, rfl⟩) rfl rfl
    | created before created after =>
      have old := balanced.of_same before.wallets before.entries
      exact (old.created created).of_same after.wallets after.entries
    | touched => exact balanced.of_same rfl rfl
  | settle c settles =>
    cases settles with
    | touched => exact balanced.of_same rfl rfl
    | decided _ _ _ _ books => exact (balanced.books books).of_same rfl rfl

end Balanced

structure Backed (t : Tables) (w : Wallet) : Prop where
  sum : t.walletSum w.id = .ok w.balance
  covered : ¬ w.balance < 0
  noted : ∀ k e, (t.walletEntries w.id)[k]? = some e →
    ∃ after, Decimal.sum (((t.walletEntries w.id).take (k + 1)).map (·.amount)) = .ok after ∧
      e.balanceAfter = some after ∧ ¬ after < 0
  last : ∀ e, (t.walletEntries w.id).getLast? = some e → e.balanceAfter = some w.balance

theorem Balanced.backed (balanced : t.Balanced) (mem : w ∈ t.wallets) : t.Backed w := by
  have running := balanced.running w mem
  exact ⟨running.sum, running.not_neg (by decide), fun _ _ there => running.at_ there,
    fun _ there => running.final there⟩

end Tables

-- Comparing a backed balance with its entries finds no drift, and on a calm server it is not
-- refused.
theorem Wallets.verify_ended {s : Server} {w : Wallet} (honest : s.Honest)
    (stored : s.tables.wallet? w.id = some w) (sum : s.tables.walletSum w.id = .ok w.balance)
    (answer : {β : Type} → Question β → β) :
    s.Ended (fun _ => False) (fun audit _ p => audit = ⟨w.id, w.balance, w.balance⟩ ∧ p = none)
      ((verify w.id).run.runAlone answer s).1 ((verify w.id).run.runAlone answer s).2 := by
  refine Server.unit_ended (.bind (.told (.read (.bind (.found (fun v there => ?_) fun missing => ?_)))))
    honest
  · cases stored.symm.trans there
    refine .bind (.told (.ledgerSumForWallet (fun total same => ?_) (fun _ failed => ?_)))
    · cases sum.symm.trans same
      obtain ⟨zero, drift, nothing⟩ := Decimal.sub_self w.balance
      refine .bind (.exactly (fun found same => ?_) (fun _ failed => ?_))
      · cases drift.symm.trans same
        rw [if_pos nothing]
        exact .pure ⟨rfl, rfl⟩
      · cases drift.symm.trans failed
    · cases sum.symm.trans failed
  · cases stored.symm.trans missing

theorem World.run_balanced (events : List Event) : (World.run events).server.tables.Balanced :=
  Sound.start.induct (I := fun _ t => t.Balanced) (fun _ _ _ _ _ step balanced => balanced.step step)
    .empty events

-- In every state of every run, each balance is the sum of its entries, never negative, and noted
-- on the entries as it went.
theorem World.run_backed (events : List Event) (w : Wallet)
    (stored : w ∈ (World.run events).server.tables.wallets)
    (answer : {β : Type} → Question β → β) :
    (World.run events).server.tables.Backed w ∧
      (∀ audit, ((Wallets.verify w.id).run.runAlone answer (World.run events).server).1 = .ok audit →
        audit = ⟨w.id, w.balance, w.balance⟩ ∧ ∃ drift, audit.drift = .ok drift ∧ drift.isZero = true) ∧
      ((World.run events).server.Calm →
        ∃ audit, ((Wallets.verify w.id).run.runAlone answer (World.run events).server).1 = .ok audit) := by
  have balanced := run_balanced events
  have backed := balanced.backed stored
  have ended := Wallets.verify_ended (run_sound events).honest (balanced.found stored) backed.sum answer
  refine ⟨backed, fun audit reported => ?_, fun calm => ?_⟩
  · obtain ⟨_, ⟨rfl, _⟩, _⟩ := ended.answer audit reported
    exact ⟨rfl, Decimal.sub_self w.balance⟩
  · rcases result : ((Wallets.verify w.id).run.runAlone answer (World.run events).server).1 with h | audit
    · exact ((ended.refusal h result).2 calm).elim
    · exact ⟨audit, rfl⟩

def Decimal.ofCents (n : Nat) (small : n < Nat.pow 2 96) : Decimal := ⟨false, n, 2, small, by decide⟩

-- A wallet is opened and receives 25.00.
def World.depositEvents : List Event :=
  [.begin (.openWallet 7 .ngn .personal), .advance 0,
    .begin (.deposit ⟨none, Supply.wallet ⟨0⟩, .ngn, .ofCents 2500 (by decide), "bank", ""⟩),
    .advance 1]

def World.silence : {β : Type} → Question β → β
  | _, .call _ => ⟨.unknown none, none⟩
  | _, .page _ _ => .error .malformedPage

theorem World.run_backed_deposit :
    ∃ w, (World.run World.depositEvents).server.tables.wallets = [w] ∧ w.balance.magnitude = 2500 ∧
      (World.run World.depositEvents).server.tables.Backed w :=
  ⟨_, rfl, rfl,
    (World.run_backed World.depositEvents _ (List.mem_singleton.mpr rfl) World.silence).1⟩

end Treasury
