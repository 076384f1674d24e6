import Treasury.Proofs.Request.Alone

namespace Treasury

open Transactions

inductive Write where
  | openWallet (owner : Int) (currency : Currency) (walletType : WalletType)
  | requestWallet (owner : Int) (r : WalletRequest)
  | setWalletStatus (id : WalletId) (status : WalletStatus)
  | deposit (r : DepositRequest)
  | transfer (r : TransferRequest)
  | reserve (d : Draft) (provider : String)
  | settle (c : SettleCall)
  | defer (id : TransactionId) (expected : TransactionStatus)
  | recordRate (r : Rate)
  | trackReferral (referrer referee : Int) (bonus : Decimal)
  | requestWithdrawal (policy : RewardPolicy) (user : Int) (amount : Decimal)
  | updateWithdrawal (id : WithdrawalId) (status : WithdrawalStatus)

namespace Write

def Error : Write → Type
  | .openWallet _ _ _ | .requestWallet _ _ | .setWalletStatus _ _ => WalletError
  | .deposit _ | .transfer _ | .reserve _ _ | .settle _ | .defer _ _ => TransactionError
  | .recordRate _ => RateError
  | .trackReferral _ _ _ | .requestWithdrawal _ _ _ | .updateWithdrawal _ _ => RewardError

def Answer : Write → Type
  | .openWallet _ _ _ | .requestWallet _ _ | .setWalletStatus _ _ => Wallet
  | .deposit _ | .transfer _ | .settle _ => Transaction
  | .reserve _ _ => External.Reservation
  | .defer _ _ => Unit
  | .recordRate _ => Rate
  | .trackReferral _ _ _ => Referral
  | .requestWithdrawal _ _ _ | .updateWithdrawal _ _ => Withdrawal

def task : (w : Write) → Task w.Error w.Answer
  | .openWallet owner currency walletType => Wallets.create owner currency walletType
  | .requestWallet owner r => Wallets.request owner r
  | .setWalletStatus id status => Wallets.setStatus id status
  | .deposit r => Transactions.deposit r
  | .transfer r => Transactions.transfer r
  | .reserve d provider => External.reserve d provider
  | .settle c => External.settle c.id c.expected c.provider c.outcome
  | .defer id expected => External.defer id expected
  | .recordRate r => Rates.record r
  | .trackReferral referrer referee bonus => Rewards.track referrer referee bonus
  | .requestWithdrawal policy user amount => Rewards.request policy user amount
  | .updateWithdrawal id status => Rewards.update id status

-- What an answer stands for: the rows that were published with it, told from the rows before and
-- the answer, or that there was nothing to do.
def Effect : (w : Write) → Gauge → Tables → w.Answer → Gauge → Option Tables → Prop
  | .openWallet owner currency walletType, g, t, w, g', p =>
    Wallets.Opens owner currency walletType g t w g' p
  | .requestWallet owner r, g, t, w, g', p =>
    ∃ currency walletType, r.parse = .ok (currency, walletType) ∧
      Wallets.Opens owner currency walletType g t w g' p
  | .setWalletStatus id status, _, t, w, _, p => Wallets.Restates id status t w p
  | .deposit r, g, t, x, g', p =>
    ∃ a, checkedAmount r.amount r.currency = .ok a ∧
      Honours r.idempotencyKey ⟨.deposit, r.walletId⟩ (Deposits r a) g t x g' p
  | .transfer r, g, t, x, g', p =>
    ∃ a f c, checkedAmount r.amount r.currency = .ok a ∧ checkedFee r.fee r.currency = .ok f ∧
      c.Of r a ∧
      Honours r.idempotencyKey ⟨.transfer, r.sourceWalletId⟩ (Transfers r a f c) g t x g' p
  | .reserve d provider, g, t, found, g', p => External.Debits d provider g t found g' p
  | .settle c, _, t, x, _, p => Settles c t (.settled x) p
  | .defer id expected, _, t, _, _, p => External.Defers id expected t p
  | .recordRate r, _, t, x, _, p => x = r ∧ p = some (t.withRate r)
  | .trackReferral referrer referee bonus, g, t, x, g', p =>
    Rewards.Tracks referrer referee bonus g t x g' p
  | .requestWithdrawal policy user amount, g, t, x, g', p =>
    Rewards.Requests policy user amount g t x g' p
  | .updateWithdrawal id status, g, t, x, g', p => Rewards.Decides id status g t x g' p

end Write

inductive Query where
  | wallet (id : WalletId)
  | walletOf (owner : Int) (currency : Currency)
  | verifyWallet (id : WalletId)
  | rate (base quote : Currency)
  | convert (amount : Decimal) (base quote : Currency)
  | transaction (id : TransactionId)
  | entries (id : TransactionId)
  | earnings (user : Int)
  | withdrawal (id : WithdrawalId)

namespace Query

def Error : Query → Type
  | .wallet _ | .walletOf _ _ | .verifyWallet _ => WalletError
  | .rate _ _ | .convert _ _ _ => RateError
  | .transaction _ | .entries _ => TransactionError
  | .earnings _ | .withdrawal _ => RewardError

def Answer : Query → Type
  | .wallet _ | .walletOf _ _ => Wallet
  | .verifyWallet _ => Wallet.Audit
  | .rate _ _ | .convert _ _ _ => Decimal
  | .transaction _ => Transaction
  | .entries _ => List Entry
  | .earnings _ => Earnings
  | .withdrawal _ => Withdrawal

def task : (q : Query) → Task q.Error q.Answer
  | .wallet id => Wallets.get id
  | .walletOf owner currency => Wallets.ofOwner owner currency
  | .verifyWallet id => Wallets.verify id
  | .rate base quote => Rates.get base quote
  | .convert amount base quote => Rates.convert amount base quote
  | .transaction id => Transactions.get id
  | .entries id => Transactions.entries id
  | .earnings user => Rewards.earnings user
  | .withdrawal id => Rewards.get id

end Query

-- A task that has the server for itself and keeps the rows wherever it ends early. `Q` holds of
-- its answer and of the rows that it published, if it published any.
def Task.Commits (task : Task ε α) (s : Server) (Q : α → Gauge → Option Tables → Prop) : Prop :=
  task.Alone s (fun _ s' _ => s'.tables = s.tables) fun a s' _ =>
    ∃ p, Q a s'.gauge p ∧ s'.tables = p.getD s.tables

def Task.Keeps (task : Task ε α) (s : Server) : Prop :=
  task.Alone s (fun _ s' _ => s'.tables = s.tables) fun _ s' _ => s'.tables = s.tables

namespace Task

variable {task : Task ε α} {s : Server}

theorem Acts.commits {E : Gauge → Tables → Halt ε → Prop}
    {Q : Gauge → Tables → α → Gauge → Option Tables → Prop} (acts : task.Acts E Q)
    (honest : s.Honest) : task.Commits s (Q s.gauge s.tables) :=
  Alone.acts acts honest (fun _ _ p _ post tables => ⟨p, post, tables⟩) fun _ _ still _ => still.tables

theorem Reads.keeps (reads : task.Reads) (honest : s.Honest) : task.Keeps s := by
  refine Alone.acts reads honest (fun _ _ p _ unpublished tables => ?_) fun _ _ still _ => still.tables
  subst unpublished
  exact tables

theorem Commits.mono {Q Q' : α → Gauge → Option Tables → Prop} (commits : task.Commits s Q)
    (weaker : ∀ a g p, Q a g p → Q' a g p) : task.Commits s Q' := by
  refine Ensures.mono commits (fun a s' _ ended => ?_) fun _ _ _ kept => kept
  obtain ⟨p, post, tables⟩ := ended
  exact ⟨p, weaker _ _ _ post, tables⟩

theorem Commits.check {tried : Except ε β} {f : β → Task ε α} {Q : α → Gauge → Option Tables → Prop}
    (rest : ∀ b, tried = .ok b → (f b).Commits s Q) : (Task.checked tried >>= f).Commits s Q :=
  Ensures.bind (.checked rest fun _ _ => rfl)

theorem Commits.refuse {Q : α → Gauge → Option Tables → Prop} :
    (Task.refuse e : Task ε α).Commits s Q :=
  Eq.refl s.tables

end Task

theorem Rates.get_keeps (base quote : Currency) {s : Server} (honest : s.Honest) :
    (get base quote).Keeps s :=
  get_alone honest (fun _ _ still _ => still.tables) fun _ _ still _ => still.tables

theorem Rates.convert_keeps (amount : Decimal) (base quote : Currency) {s : Server}
    (honest : s.Honest) : (convert amount base quote).Keeps s := by
  refine .bind (Task.Ensures.mono (get_keeps base quote honest) (fun rate s' _ kept => ?_)
    fun _ _ _ kept => kept)
  exact .bind (.exactly (fun product _ => .pure kept) fun _ _ => kept)

theorem Query.keeps (q : Query) {s : Server} (honest : s.Honest) : q.task.Keeps s := by
  cases q with
  | wallet id => exact (Wallets.get_finds id).reads.keeps honest
  | walletOf owner currency => exact (Wallets.ofOwner_finds owner currency).reads.keeps honest
  | verifyWallet id => exact (Wallets.verify_reads id).keeps honest
  | rate base quote => exact Rates.get_keeps base quote honest
  | convert amount base quote => exact Rates.convert_keeps amount base quote honest
  | transaction id => exact (Transactions.get_finds id).reads.keeps honest
  | entries id => exact (Transactions.entries_reads id).keeps honest
  | earnings user => exact (Rewards.earnings_reads user).keeps honest
  | withdrawal id => exact (Rewards.get_finds id).reads.keeps honest

namespace Write

variable {s : Server}

theorem deposit_commits (r : DepositRequest) (honest : s.Honest) :
    (Transactions.deposit r).Commits s ((Write.deposit r).Effect s.gauge s.tables) := by
  refine .check fun a amount => ?_
  refine Task.Commits.mono (Task.Acts.commits (.unit fun _ _ => depositIn_honours amount) honest) ?_
  exact fun _ _ _ honours => ⟨a, amount, honours⟩

-- The rate is looked up in a unit of its own, which commits nothing.
theorem transfer_commits (r : TransferRequest) (honest : s.Honest) :
    (Transactions.transfer r).Commits s ((Write.transfer r).Effect s.gauge s.tables) := by
  refine .check fun a amount => .check fun f fee => ?_
  split
  · exact .refuse
  · rename_i apart
    refine .bind ((credited_alone amount honest).mono (fun c s₁ _ credited => ?_)
      fun h s₁ _ failed => failed.1.tables)
    obtain ⟨still, rfl, credits, _⟩ := credited
    have worth : c.Of r a := checkedAmount_same amount ▸ credits.of
    refine Task.Ensures.mono (Task.Acts.commits
      (.unit fun _ _ => transferIn_honours amount fee apart worth) still.honest)
      (fun x s₂ _ ended => ?_) fun _ s₂ _ kept => ?_
    · obtain ⟨p, honours, tables⟩ := ended
      rw [still.tables] at honours tables
      exact ⟨p, ⟨a, f, c, amount, fee, worth, honours.before still.issued⟩, tables⟩
    · exact kept.trans still.tables

theorem settle_commits (c : SettleCall) (honest : s.Honest) :
    (External.settle c.id c.expected c.provider c.outcome).Commits s
      ((Write.settle c).Effect s.gauge s.tables) :=
  Task.Alone.settle honest (fun _ _ p settles tables => ⟨p, settles, tables⟩)
    fun _ _ still => still.tables

theorem commits (w : Write) (honest : s.Honest) : w.task.Commits s (w.Effect s.gauge s.tables) := by
  cases w with
  | openWallet owner currency walletType =>
    exact (Wallets.create_acts owner currency walletType).commits honest
  | requestWallet owner r =>
    refine .check fun parsed read => ?_
    exact ((Wallets.create_acts owner parsed.1 parsed.2).commits honest).mono fun _ _ _ opens =>
      ⟨_, _, read, opens⟩
  | setWalletStatus id status => exact (Wallets.setStatus_acts id status).commits honest
  | deposit r => exact deposit_commits r honest
  | transfer r => exact transfer_commits r honest
  | reserve d provider => exact (External.reserve_debits d).commits honest
  | settle c => exact settle_commits c honest
  | defer id expected => exact (External.defer_acts id expected).commits honest
  | recordRate r =>
    by_cases low : r.rate ≤ 0
    · change (Rates.record r).Commits s _
      rw [Rates.record, if_pos low]
      exact .refuse
    · exact (Rates.record_acts low).commits honest
  | trackReferral referrer referee bonus =>
    change (Rewards.track referrer referee bonus).Commits s _
    by_cases own : referrer = referee
    · rw [Rewards.track, if_pos own]
      exact .refuse
    · by_cases low : bonus ≤ 0
      · rw [Rewards.track, if_neg own, if_pos low]
        exact .refuse
      · exact (Rewards.track_acts own low).commits honest
  | requestWithdrawal policy user amount =>
    change (Rewards.request policy user amount).Commits s _
    by_cases low : amount ≤ 0
    · rw [Rewards.request, if_pos low]
      exact .refuse
    · by_cases below : amount < policy.threshold
      · rw [Rewards.request, if_neg low, if_pos below]
        exact .refuse
      · exact (Rewards.request_acts low below).commits honest
  | updateWithdrawal id status => exact (Rewards.update_acts id status).commits honest

end Write

namespace Server

-- Whatever is offline, fails or breaks down on the way, an operation that ends early has committed
-- nothing, and one that answers has committed its whole effect. A query never commits anything.
theorem all_or_nothing (s : Server) (honest : s.Honest) (answer : {β : Type} → Question β → β) :
    (∀ w : Write,
      (∀ h, (w.task.run.runAlone answer s).1 = .error h →
        (w.task.run.runAlone answer s).2.tables = s.tables) ∧
      ∀ a, (w.task.run.runAlone answer s).1 = .ok a →
        ∃ p, w.Effect s.gauge s.tables a (w.task.run.runAlone answer s).2.gauge p ∧
          (w.task.run.runAlone answer s).2.tables = p.getD s.tables) ∧
      ∀ q : Query, (q.task.run.runAlone answer s).2.tables = s.tables := by
  refine ⟨fun w => ?_, fun q => ?_⟩
  · have ended := Flow.Ensures.alone (w.commits honest) answer
    refine ⟨fun h stopped => ?_, fun a ok => ?_⟩
    · rwa [stopped] at ended
    · rwa [ok] at ended
  · have ended := Flow.Ensures.alone (q.keeps honest) answer
    rcases result : (q.task.run.runAlone answer s).1 with h | a <;> rwa [result] at ended

-- A server whose next commit fails, after all of a transfer is staged.
def uncommitting : Server := { (World.run World.depositEvents).server with failNextCommit := true }

theorem all_or_nothing_uncommitting :
    let transfer : Write := .transfer ⟨none, Supply.wallet ⟨0⟩, .external "acct" none, .ngn,
      .ofCents 1000 (by decide), .ofCents 50 (by decide), ""⟩
    (∃ h, (transfer.task.run.runAlone World.silence uncommitting).1 = .error h) ∧
      (transfer.task.run.runAlone World.silence uncommitting).2.tables = uncommitting.tables :=
  ⟨⟨_, rfl⟩, ((all_or_nothing uncommitting (World.run_sound World.depositEvents).honest
    World.silence).1 _).1 _ rfl⟩

end Server
end Treasury
