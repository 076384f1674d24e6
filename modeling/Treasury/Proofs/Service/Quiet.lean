import Treasury.Proofs.Request.Basic

namespace Treasury

def Question.order? : Question β → Option Call
  | .call (.order provider id order) => some (.order provider id order)
  | _ => none

def Flow.order? : Flow α → Option Call
  | .ask question _ => question.order?
  | _ => none

inductive Flow.Quiet {α : Type} : Flow α → Prop where
  | done (a : α) : Quiet (.done a)
  | step {β : Type} {act : Server → β × Server} {next : β → Flow α} (rest : ∀ b, (next b).Quiet) :
    Quiet (.step act next)
  | ask {β : Type} {question : Question β} {next : β → Flow α} (quiet : question.order? = none)
      (rest : ∀ b, (next b).Quiet) : Quiet (.ask question next)

namespace Flow.Quiet

theorem bind {flow : Flow α} {f : α → Flow β} (first : flow.Quiet) (rest : ∀ a, (f a).Quiet) :
    (flow.bind f).Quiet := by
  induction first with
  | done a => exact rest a
  | step _ ih => exact .step ih
  | ask quiet _ ih => exact .ask quiet ih

theorem order? {flow : Flow α} (quiet : flow.Quiet) : flow.order? = none := by
  cases quiet with
  | ask quiet => exact quiet
  | _ => rfl

end Flow.Quiet

def Task.Quiet (task : Task ε α) : Prop := task.run.Quiet

namespace Task.Quiet

variable {task : Task ε α}

theorem pure (a : α) : Task.Quiet (Pure.pure a : Task ε α) := .done _

theorem halt (h : Halt ε) : Task.Quiet (throw h : Task ε α) := .done _

theorem unit (tell : StoreError → ε) (w : Work ε α) : (Task.unit tell w).Quiet :=
  Flow.Quiet.step fun _ => .done _

theorem bind {task : Task ε β} {f : β → Task ε α} (first : task.Quiet) (rest : ∀ b, (f b).Quiet) :
    (task >>= f).Quiet := by
  refine Flow.Quiet.bind first ?_
  rintro (h | b)
  · exact .done _
  · exact rest b

theorem checked (r : Except ε α) : (Task.checked r).Quiet := by
  cases r with
  | ok a => exact pure a
  | error e => exact halt _

theorem settled (r : Except Breakdown α) : (Task.settled r : Task ε α).Quiet := by
  cases r with
  | ok a => exact pure a
  | error reason => exact halt _

theorem exactly (r : Except Decimal.Overflow α) : (Task.exactly r : Task ε α).Quiet := Flow.Quiet.done _

theorem attempt (quiet : task.Quiet) : (task.attempt : Task δ _).Quiet := by
  refine Flow.Quiet.bind quiet ?_
  rintro ((_ | _) | _) <;> exact .done _

theorem step (act : Server → α × Server) : (Task.step act : Task ε α).Quiet :=
  Flow.Quiet.step fun _ => .done _

theorem report_then {f : Unit → Task ε α} (rest : (f ()).Quiet) : (Task.report event >>= f).Quiet :=
  bind (step _) fun _ => rest

theorem ask {question : Question α} (quiet : question.order? = none) :
    (Task.ask question : Task ε α).Quiet :=
  Flow.Quiet.ask quiet fun _ => .done _

end Task.Quiet

namespace External

theorem settle_quiet (id : TransactionId) (expected : TransactionStatus) (provider : String)
    (outcome : Outcome) : (settle id expected provider outcome).Quiet := by
  refine .bind (.unit _ _) fun settled => ?_
  cases settled with
  | settled => exact .pure _
  | outrun => exact .unit _ _

theorem attempt_parts (timeout : Nat) (call : Call) :
    ∃ heard : Reply → Task ε Outcome, attempt timeout call = Task.ask (.call call) >>= heard ∧
      ∀ reply, (heard reply).Quiet := by
  refine ⟨_, rfl, fun reply => ?_⟩
  split
  · exact .report_then (.pure _)
  · exact .report_then (.pure _)

end External

namespace Reconciliation

theorem defer_quiet (t : Transaction) : (defer t).Quiet := by
  refine .bind (.attempt (.unit _ _)) fun tried => ?_
  cases tried with
  | ok => exact .pure _
  | error => exact .step _

theorem resolve_quiet (timeout : Nat) (providers : Registry) (t : Transaction) (r : Report) :
    (resolve timeout providers t r).Quiet := by
  unfold resolve
  split
  · exact .pure _
  · dsimp only
    split
    · exact .report_then (.bind (defer_quiet t) fun _ => .pure _)
    · rename_i provider _
      obtain ⟨heard, same, quiet⟩ :=
        External.attempt_parts (ε := TransactionError) timeout (.status provider t.id)
      rw [same]
      refine .bind (.bind (.ask rfl) quiet) fun outcome => ?_
      refine .bind (.attempt (External.settle_quiet _ _ _ _)) fun tried => ?_
      cases tried with
      | ok => exact .pure _
      | error => exact .report_then (.bind (defer_quiet t) fun _ => .pure _)

theorem resolveAll_quiet (timeout : Nat) (providers : Registry) (batch : List Transaction)
    (r : Report) : (resolveAll timeout providers batch r).Quiet := by
  induction batch generalizing r with
  | nil => exact .pure _
  | cons t rest ih => exact .bind (resolve_quiet timeout providers t r) ih

theorem run_quiet (timeout : Nat) (providers : Registry) (plan : Plan) :
    (run timeout providers plan).Quiet := by
  have scanned : (scan plan).Quiet :=
    .bind (.step _) fun _ => .bind (.settled _) fun _ => .unit _ _
  refine .bind scanned fun batch => ?_
  split
  · exact .report_then (.pure _)
  · refine .report_then (.bind (resolveAll_quiet _ _ _ _) fun r => ?_)
    dsimp only
    split
    · exact .report_then (.report_then (.pure _))
    · exact .report_then (.pure _)

end Reconciliation

namespace CatalogSweep

theorem upsertItem_quiet (item : VendorItem) : (upsertItem item).Quiet := by
  unfold upsertItem
  split
  · exact .halt _
  · exact .unit _ _

theorem takeItems_quiet (r : Report) (items : List VendorItem) : (takeItems r items).Quiet := by
  induction items generalizing r with
  | nil => exact .pure _
  | cons item rest ih =>
    refine .bind (.bind (.attempt (upsertItem_quiet item)) fun tried => ?_) ih
    cases tried with
    | ok => exact .pure _
    | error => exact .report_then (.pure _)

theorem finished_quiet (r : Report) : (finished r).Quiet := .report_then (.pure _)

theorem failed_quiet (number : Nat) (e : CatalogError) (r : Report) : Task.Quiet (ε := CatalogError) (do
    if number = 0 then
      Task.report (.of .catalog .error "Catalog sync aborted on first page"
        [("error", .shown e.message)])
      Task.refuse e
    else
      Task.report (.of .catalog .warn "Catalog page failed, sweep truncated"
        [("page", .number number), ("error", .shown e.message)])
      finished { r with truncated := true }) := by
  split
  · exact .report_then (.halt _)
  · exact .report_then (finished_quiet _)

theorem sweepFrom_quiet (pageSize left : Nat) (r : Report) : (sweepFrom pageSize left r).Quiet := by
  induction left generalizing r with
  | zero =>
    unfold sweepFrom
    refine .bind (.ask rfl) fun answer => ?_
    cases answer with
    | error e => exact failed_quiet _ e r
    | ok page => exact .halt _
  | succ left ih =>
    unfold sweepFrom
    refine .bind (.ask rfl) fun answer => ?_
    cases answer with
    | error e => exact failed_quiet _ e r
    | ok page =>
      refine .bind (takeItems_quiet _ _) fun r => ?_
      split
      · exact .halt _
      · split
        · exact finished_quiet r
        · exact ih r

end CatalogSweep

theorem Rates.get_quiet (base quote : Currency) : (Rates.get base quote).Quiet := by
  unfold Rates.get
  split
  · exact .pure _
  · exact .unit _ _

theorem Rates.record_quiet (r : Rate) : (Rates.record r).Quiet := by
  unfold Rates.record
  split
  · exact .halt _
  · exact .unit _ _

theorem Rewards.track_quiet (referrer referee : Int) (bonus : Decimal) :
    (Rewards.track referrer referee bonus).Quiet := by
  unfold Rewards.track
  split
  · exact .halt _
  · split
    · exact .halt _
    · exact .unit _ _

theorem Rewards.request_quiet (policy : RewardPolicy) (user : Int) (amount : Decimal) :
    (Rewards.request policy user amount).Quiet := by
  unfold Rewards.request
  split
  · exact .halt _
  · split
    · exact .halt _
    · exact .unit _ _

theorem Operation.quiet (operation : Operation) :
    (∃ (q : Request) (g : Transactions.Gateway), operation = q.operation g) ∨
      operation.activity.flow.Quiet := by
  cases operation with
  | deposit r => exact .inl ⟨.deposit r, ⟨⟨none, none, none⟩, 0⟩, rfl⟩
  | transfer r => exact .inl ⟨.transfer r, ⟨⟨none, none, none⟩, 0⟩, rfl⟩
  | purchaseGiftCard g r => exact .inl ⟨.giftCard r, g, rfl⟩
  | payOut g r => exact .inl ⟨.payout r, g, rfl⟩
  | sendCrypto g r => exact .inl ⟨.send r, g, rfl⟩
  | requestWallet => exact .inr (Task.Quiet.bind (.checked _) fun _ => .unit _ _)
  | recordRate r => exact .inr (Rates.record_quiet r)
  | rate base quote => exact .inr (Rates.get_quiet base quote)
  | convert amount base quote =>
    exact .inr (Task.Quiet.bind (Rates.get_quiet base quote) fun _ => .bind (.exactly _) fun _ => .pure _)
  | settle c => exact .inr (External.settle_quiet _ _ _ _)
  | reconcile timeout providers plan => exact .inr (Reconciliation.run_quiet timeout providers plan)
  | trackReferral referrer referee bonus => exact .inr (Rewards.track_quiet referrer referee bonus)
  | requestWithdrawal policy user amount => exact .inr (Rewards.request_quiet policy user amount)
  | sweepCatalog pageSize => exact .inr (CatalogSweep.sweepFrom_quiet _ _ _)
  | _ => exact .inr (.step fun _ => .done _)

end Treasury
