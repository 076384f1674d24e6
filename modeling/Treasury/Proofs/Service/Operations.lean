import Treasury.Service.Reconciliation
import Treasury.Proofs.Service.Units

namespace Treasury

namespace External

open Transactions

theorem attempt_lawful (timeout : Nat) (call : Call) :
    (attempt timeout call : Task ε Outcome).Lawful fun _ => True := by
  refine .after (.ask fun _ => trivial) fun reply => ?_
  split
  · exact .report_then (.pure trivial)
  · exact .report_then (.pure trivial)

theorem settle_lawful (id : TransactionId) (expected : TransactionStatus) (provider : String)
    (outcome : Outcome) : (settle id expected provider outcome).Lawful fun _ => True :=
  .settle ⟨id, expected, provider, outcome⟩

theorem execute_lawful (placed : d.Placed) (timeout : Nat) (provider : String) (order : Order) :
    (execute timeout d provider order).Lawful fun _ => True := by
  refine .bind (reserve_lawful placed) fun reserved _ => ?_
  cases reserved with
  | replayed t => exact .report_then (.pure trivial)
  | reserved t => exact .bind (attempt_lawful _ _) fun outcome _ => settle_lawful ..

end External

namespace Transactions

theorem loadOffer_acts (r : GiftCardRequest) :
    (loadOffer r).Acts (fun _ _ _ => True)
      (fun _ t offer _ p => t.wallet? r.walletId = some offer.1 ∧ p = none) := by
  refine .unit fun g t => .bind (.told (.read (.bind (.found (fun w stored => ?_) fun _ => trivial))))
  refine .bind (.told (.read (.bind (.found (fun listing _ => ?_) fun _ => trivial))))
  exact .pure ⟨stored, rfl⟩

theorem quote_lawful (r : GiftCardRequest) :
    (quote r).Lawful fun q => q.wallet.id = r.walletId ∧ q.Priced := by
  have offer : (loadOffer r).Lawful fun offer => offer.1.id = r.walletId := by
    refine .acts (loadOffer_acts r) ?_
    rintro _ _ _ _ _ ⟨stored, rfl⟩
    exact .kept (Rows.key_of_find? stored)
  refine .bind offer fun known number => ?_
  obtain ⟨wallet, listing⟩ := known
  refine .after (.exactly fun _ _ => trivial) fun price? => ?_
  refine .after (.found fun _ _ => trivial) fun price => ?_
  refine .after (.checked fun _ _ => trivial) fun senderCurrency => ?_
  refine .after (.exactly fun _ _ => trivial) fun senderAmount => ?_
  refine .bind (.told (Rates.get_lawful _ _)) fun rate _ => ?_
  refine .after (.exactly fun _ _ => trivial) fun product => ?_
  dsimp only
  split
  · exact .refuse
  · rename_i positive
    exact .report_then (.pure ⟨number, positive, product, rfl⟩)

theorem purchaseGiftCard_lawful (g : Gateway) (r : GiftCardRequest) :
    (purchaseGiftCard g r).Lawful fun _ => True := by
  unfold purchaseGiftCard
  split
  · exact .refuse
  · split
    · exact .refuse
    · refine .after (.checked fun _ _ => trivial) fun provider => ?_
      refine .bind (findByKey_lawful _) fun known _ => ?_
      cases known with
      | some t => exact .pure trivial
      | none =>
        exact .bind (quote_lawful r) fun q quoted => External.execute_lawful (.giftCard r q quoted.2) ..

theorem payOut_lawful (g : Gateway) (r : PayoutRequest) : (payOut g r).Lawful fun _ => True := by
  refine .bind (.checked fun _ amount => amount) fun a amount => ?_
  refine .bind (.checked fun _ fee => fee) fun f fee => ?_
  refine .after (.checked fun _ _ => trivial) fun provider => ?_
  refine .bind (loadWallet_lawful _) fun w _ => .bind (.checked fun _ same => same) fun _ same => ?_
  exact External.execute_lawful (.payout r w amount fee (checkCurrency_ok same)) ..

theorem sendCrypto_lawful (g : Gateway) (r : SendRequest) : (sendCrypto g r).Lawful fun _ => True := by
  refine .bind (.checked fun _ amount => amount) fun a amount => ?_
  refine .bind (.checked fun _ fee => fee) fun f fee => ?_
  refine .after (.checked fun _ _ => trivial) fun provider => ?_
  refine .bind (loadWallet_lawful _) fun w _ => .bind (.checked fun _ same => same) fun _ same => ?_
  exact External.execute_lawful (.send r w amount fee (checkCurrency_ok same)) ..

end Transactions

namespace Reconciliation

theorem defer_lawful (t : Transaction) : (defer t).Lawful fun _ => True := by
  refine .bind (.attempt (External.defer_lawful _ _)) fun tried _ => ?_
  cases tried with
  | ok => exact .pure trivial
  | error e => exact .report trivial

theorem resolve_lawful (timeout : Nat) (providers : Registry) (t : Transaction) (r : Report) :
    (resolve timeout providers t r).Lawful fun _ => True := by
  unfold resolve
  split
  · exact .pure trivial
  · dsimp only
    split
    · exact .report_then (.after (defer_lawful t) fun _ => .pure trivial)
    · refine .bind (External.attempt_lawful _ _) fun outcome _ => ?_
      refine .bind (.attempt (External.settle_lawful _ _ _ _)) fun tried _ => ?_
      cases tried with
      | ok t => exact .pure trivial
      | error e =>
        exact .report_then (.after (defer_lawful t) fun _ => .pure trivial)

theorem resolveAll_lawful (timeout : Nat) (providers : Registry) (batch : List Transaction)
    (r : Report) : (resolveAll timeout providers batch r).Lawful fun _ => True := by
  induction batch generalizing r with
  | nil => exact .pure trivial
  | cons t rest ih => exact .bind (resolve_lawful timeout providers t r) fun r _ => ih r

theorem run_lawful (timeout : Nat) (providers : Registry) (plan : Plan) :
    (run timeout providers plan).Lawful fun _ => True := by
  have scanned : (scan plan).Lawful fun _ => True := by
    refine .after (.now fun _ => trivial) fun now => ?_
    refine .after (.settled fun _ _ => trivial) fun cutoff => ?_
    exact .unit fun _ _ => .keep (.told (.read (.kept trivial)))
  refine .bind scanned fun batch _ => ?_
  split
  · exact .report_then (.pure trivial)
  · refine .report_then (.after (resolveAll_lawful ..) fun r => ?_)
    dsimp only
    split
    · exact .report_then (.report_then (.pure trivial))
    · exact .report_then (.pure trivial)

end Reconciliation

def Rewards.Unbalanced (h : Halt RewardError) : Prop :=
  ∃ context, h = .refused (.storage context (.checkViolation "referral_earnings_balance_check"))

namespace Work.Stages

variable {E : Halt RewardError → Prop} {g : Gauge} {t : Tables} {tell : StoreError → RewardError}

theorem lockRewards {Q : Earnings → Gauge → Tables → Prop}
    (post : ∀ g', g.Before g' → Q (t.lockedEarnings user g.clock) g' (t.withLocked user g.clock)) :
    (Rewards.lockEarnings user).Stages E g t Q := told (lockEarnings post)

theorem writeEarnings {Q : Unit → Gauge → Tables → Prop}
    (post : ∀ e', e' = { e with updatedAt := g.clock } → e'.isConsistent = .ok true →
      Q () { g with clock := g.clock.next } (t.withEarnings e'))
    (refused : ∀ h, Earnings.isConsistent { e with updatedAt := g.clock } ≠ .ok true → E h) :
    (Rewards.writeEarnings tell e).Stages E g t Q := by
  refine bind (now (told (upsertEarnings (post _ rfl) (fun bad => refused _ ?_) fun _ bad => refused _ ?_)))
  · rw [bad]
    simp
  · rw [bad]
    simp

theorem payOut {Q : TransactionId → Gauge → Tables → Prop} {w : Withdrawal}
    (post : ∀ wallet now r g' t', t.wallet? w.walletId = some wallet →
      r = { (Rewards.payoutDraft w wallet).toTransaction r.id now with status := .succeeded } →
      Created g t g' r (payoutLegs wallet w.amount) t' → Q r.id g' t')
    (refused : ∀ h, ¬ Rewards.Unbalanced h → E h) : (Rewards.payOut w).Stages E g t Q := by
  -- A posting is told as one, and what else is refused is no row of earnings.
  have posting (context : String) (h : Halt PostingError) : E (h.map (.posting context)) :=
    refused _ (by cases h <;> rintro ⟨_, ⟨⟩⟩)
  refine bind (told (read (bind (found (fun wallet stored => ?_) fun _ =>
    refused _ (by rintro ⟨_, ⟨⟩⟩)))))
  refine bind (now (bind (issue (bind (told (insertTransaction (fun free => ?_)
    (fun _ _ _ => refused _ (by rintro ⟨_, ⟨⟩⟩))))))))
  refine bind (told (counterparty rfl fun _ g₁ t₁ later paid => ?_))
  refine bind (told (credit ?_ (fun _ g₂ t₂ latest landed => ?_) (fun _ _ => posting _ _)
    (fun _ _ _ => posting _ _)))
  · have number : wallet.id = w.walletId := Rows.key_of_find? stored
    rw [paid.wallet?_other (by rintro ⟨⟩), number]
    exact stored
  · refine bind (report (pure (post wallet _ _ g₂ t₂ stored rfl ?_)))
    exact ⟨.next (Nat.le_trans later latest), free, .payout w stored rfl, .cons paid (.one landed)⟩

theorem carryOut {Q : Earnings × Option TransactionId → Gauge → Tables → Prop}
    (post : ∀ e' payout g' t', g.Before g' → CarriesOut g t g' w e status e' payout t' →
      Q (e', payout) g' t')
    (refused : ∀ h, ¬ Rewards.Unbalanced h → E h) : (Rewards.carryOut w status e).Stages E g t Q := by
  have overflow (operation : Decimal.Overflow) : E (.broken (.overflow operation)) :=
    refused _ (by rintro ⟨_, ⟨⟩⟩)
  cases status with
  | rejected =>
    exact bind (exactly (fun _ back => pure (post _ _ g t (.refl g) (.rejected back)))
      fun _ _ => overflow _)
  | completed => 
    refine bind (payOut (fun wallet now r g' t' stored shape created => ?_) refused)
    refine bind (exactly (fun _ paid => pure (post _ _ g' t' ?_ ?_)) fun _ _ => overflow _)
    · obtain ⟨n, low, high, _⟩ := created.issued
      exact Nat.le_of_lt (Nat.lt_of_le_of_lt low high)
    · exact .completed stored shape created paid
  | approved => exact pure (post _ _ g t (.refl g) .approved)
  | pending => exact pure (post _ _ g t (.refl g) .pending)

end Work.Stages

namespace Rewards

-- The bonus is earned and available at once.
inductive Tracks (referrer referee : Int) (bonus : Decimal) (g : Gauge) (t : Tables) :
    Referral → Gauge → Option Tables → Prop where
  | tracked (issued : Gauge.Gives Supply.referral g g' number) (free : t.referral? referee = none)
      (shape : r = ⟨number, referrer, referee, bonus, now⟩)
      (locked : e = t.lockedEarnings referrer moment)
      (earned : e.totalEarned.add bonus = .ok totalEarned)
      (more : e.available.add bonus = .ok available)
      (row : e' = { e with totalEarned, available, updatedAt := written })
      (consistent : e'.isConsistent = .ok true) :
      Tracks referrer referee bonus g t r g'
        (some (((t.withReferral r).withLocked referrer moment).withEarnings e'))

theorem track_acts {referrer : Int} {bonus : Decimal} (others : referrer ≠ referee)
    (positive : ¬ bonus ≤ 0) :
    (track referrer referee bonus).Acts (fun _ _ _ => True) (Tracks referrer referee bonus) := by
  unfold track
  rw [if_neg others, if_neg positive]
  refine .unit fun g t => .bind (.told (.read ?_))
  split
  · exact .refuse trivial
  · refine .bind (.issue (.bind (.now (.bind (.told (.insertReferral (fun free => ?_)
      (fun _ => trivial)))))))
    refine .bind (.lockRewards fun g₁ later => ?_)
    refine .bind (.exactly (fun totalEarned earned => ?_) (fun _ _ => trivial))
    refine .bind (.exactly (fun available more => ?_) (fun _ _ => trivial))
    refine .bind (.writeEarnings (fun e' row consistent => ?_) (fun _ _ => trivial))
    refine .after (.told (.commit (.report_then (.pure ?_))))
    exact .tracked (.next later) free rfl rfl earned more row consistent

theorem track_lawful (referrer referee : Int) (bonus : Decimal) :
    (track referrer referee bonus).Lawful fun _ => True := by
  by_cases own : referrer = referee
  · unfold track
    rw [if_pos own]
    exact .refuse
  · by_cases low : bonus ≤ 0
    · unfold track
      rw [if_neg own, if_pos low]
      exact .refuse
    · refine .acts (track_acts own low) fun g t _ g' p tracks => ?_
      cases tracks with
      | tracked issued free shape locked earned more row consistent =>
        subst shape
        exact .published trivial (.referred _ issued free own low locked earned more row consistent)

theorem earnings_reads (user : Int) : (earnings user).Reads := by
  refine .unit fun g t => .bind (.told (.read ?_))
  split
  · exact .pure rfl
  · exact .bind (.now (.pure rfl))

theorem earnings_lawful (user : Int) : (earnings user).Lawful fun _ => True :=
  .reads (earnings_reads user)

-- The amount is no longer available, and a request for it waits.
inductive Requests (policy : RewardPolicy) (user : Int) (amount : Decimal) (g : Gauge) (t : Tables) :
    Withdrawal → Gauge → Option Tables → Prop where
  | requested (issued : Gauge.Gives Supply.withdrawal g g' number)
      (locked : e = t.lockedEarnings user moment) (enough : ¬ e.available < amount)
      (settles : t.walletOf? user policy.settlementCurrency = some wallet)
      (less : e.available.sub amount = .ok available)
      (row : e' = { e with available, updatedAt := written }) (consistent : e'.isConsistent = .ok true)
      (shape : w = ⟨number, user, amount, wallet.id, .pending, none, now, now⟩) :
      Requests policy user amount g t w g'
        (some (((t.withLocked user moment).withEarnings e').withWithdrawal w))

theorem request_acts {policy : RewardPolicy} {user : Int} {amount : Decimal} (positive : ¬ amount ≤ 0)
    (above : ¬ amount < policy.threshold) :
    (request policy user amount).Acts (fun _ _ _ => True) (Requests policy user amount) := by
  unfold request
  rw [if_neg positive, if_neg above]
  refine .unit fun g t => .bind (.lockRewards fun g₁ later => ?_)
  split
  · exact .refuse trivial
  · rename_i enough
    refine .bind (.told (.read (.bind (.found (fun w settles => ?_) (fun _ => trivial)))))
    refine .bind (.exactly (fun available less => ?_) (fun _ _ => trivial))
    refine .bind (.writeEarnings (fun e' row consistent => ?_) (fun _ _ => trivial))
    refine .bind (.now (.bind (.issue (.bind (.told (.write ?_))))))
    refine .after (.told (.commit (.report_then (.pure ?_))))
    rw [Tables.walletOf?, (Tables.SameBooks.withLocked ..).wallets] at settles
    exact .requested ⟨g₁.supply.issued, later, Nat.lt_succ_self _, rfl⟩ rfl enough settles less row
      consistent rfl

theorem request_lawful (policy : RewardPolicy) (user : Int) (amount : Decimal) :
    (request policy user amount).Lawful fun _ => True := by
  by_cases low : amount ≤ 0
  · unfold request
    rw [if_pos low]
    exact .refuse
  · by_cases below : amount < policy.threshold
    · unfold request
      rw [if_neg low, if_pos below]
      exact .refuse
    · refine .acts (request_acts low below) fun g t _ g' p requests => ?_
      cases requests with
      | requested issued locked enough settles less row consistent shape =>
        subst shape
        exact .published trivial
          (.requested user amount issued low locked enough settles less row consistent)

theorem get_finds (id : WithdrawalId) : (get id).Finds (·.withdrawal? id) :=
  .unit fun _ _ => .bind (.told (.read (.keep (.found (fun _ stored => ⟨stored, rfl⟩)
    fun missing => missing))))

theorem get_lawful (id : WithdrawalId) : (get id).Lawful fun _ => True := .reads (get_finds id).reads

inductive Decides (id : WithdrawalId) (status : WithdrawalStatus) (g : Gauge) (t : Tables) :
    Withdrawal → Gauge → Option Tables → Prop where
  | same (stored : t.withdrawal? id = some w) (already : w.status = status) :
      Decides id status g t w g' none
  | decided (stored : t.withdrawal? id = some w) (moves : w.status.canBecome status = true)
      (locked : e = t.lockedEarnings w.userId moment)
      (carries : CarriesOut g (t.withLocked w.userId moment) g' w e status e' payout t₁)
      (row : e'' = { e' with updatedAt := written }) (consistent : e''.isConsistent = .ok true) :
      Decides id status g t { w with status, transactionId := payout, updatedAt := now } g'
        (some ((t₁.withEarnings e'').withDecided id status payout decided))

theorem update_acts (id : WithdrawalId) (status : WithdrawalStatus) :
    (update id status).Acts (fun _ _ _ => True) (Decides id status) := by
  refine .unit fun g t => .bind (.told (.read (.bind (.found (fun w stored => ?_) fun _ => trivial))))
  split
  · rename_i already
    exact .bind (.report (.pure (.same stored already)))
  · split
    · exact .bind (.report (.refuse trivial))
    · rename_i moves
      refine .bind (.lockRewards fun g₁ later => ?_)
      refine .bind (.carryOut (fun e' payout g₂ t₁ later' carries => ?_) (fun _ _ => trivial))
      refine .bind (.writeEarnings (fun e'' row consistent => ?_) (fun _ _ => trivial))
      refine .bind (.told (.updateWithdrawalRequest (fun _ _ => ?_) (fun _ => trivial)))
      refine .after (.told (.commit (.report_then (.now_then (.pure ?_)))))
      have moves : w.status.canBecome status = true := by simpa using moves
      exact .decided stored moves rfl (carries.mono later (.refl g₂)) row consistent

theorem update_lawful (id : WithdrawalId) (status : WithdrawalStatus) :
    (update id status).Lawful fun _ => True := by
  refine .acts (update_acts id status) fun g t _ g' p decides => ?_
  cases decides with
  | same => exact .kept trivial
  | decided stored moves locked carries row consistent =>
    exact .published trivial (.decided stored moves locked carries row consistent)

end Rewards

namespace Work.Stages

variable {E : Halt StoreError → Prop} {g : Gauge} {t : Tables} {Q : Unit → Gauge → Tables → Prop}

theorem upsertProduct (post : Q () g { t with products := Rows.put Product.externalId p t.products })
    (unlinked : ¬ t.Links p → ∀ e, E (.refused e)) : (Store.upsertProduct p).Stages E g t Q := by
  refine call (bind (staged ?_))
  split
  · exact stage post
  · rename_i missing
    refine refuse (unlinked (fun links => missing ?_) _)
    rw [links.brand, links.category, links.country]
    rfl

theorem replaceDenominations
    (post : (∀ d ∈ amounts, ¬ d ≤ 0) → Q () g { t with
      denominations := Rows.put Prod.fst ((product, kind), amounts) t.denominations })
    (low : ∀ d ∈ amounts, d ≤ 0 →
      E (.refused (.checkViolation "gift_card_denominations_amount_check"))) :
    (Store.replaceDenominations product kind amounts).Stages E g t Q := by
  refine call ?_
  split
  · rename_i some
    obtain ⟨d, mem, below⟩ := List.any_eq_true.mp some
    exact refuse (low d mem (by simpa using below))
  · rename_i high
    refine stage (post fun d mem below => high ?_)
    exact List.any_eq_true.mpr ⟨d, mem, by simpa using below⟩

end Work.Stages

namespace CatalogSweep

theorem writeItem_runs {E : Halt StoreError → Prop}
    (low : (¬ ∀ kind, ∀ d ∈ denominationsOf item kind, ¬ d ≤ 0) → ∀ e, E (.refused e)) :
    (writeItem item).Runs E g t fun _ g' p =>
      p = some (t.withItem item g.clock) ∧ g'.clock = g.clock.next ∧
        ∀ kind, ∀ d ∈ denominationsOf item kind, ¬ d ≤ 0 := by
  refine .bind (.write (.bind (.write (.bind (.write (.bind (.now (.bind ?_))))))))
  refine .upsertProduct (.bind (.write (.bind ?_))) fun unlinked => ?_
  · refine .replaceDenominations (fun recipient => .bind ?_) fun d mem below => ?_
    · refine .replaceDenominations (fun sender => .bind (.write ?_)) fun d mem below => ?_
      · refine .commit ⟨rfl, rfl, fun kind => ?_⟩
        cases kind with
        | recipient => exact recipient
        | sender => exact sender
      · exact low (fun high => high .sender d mem below) _
    · exact low (fun high => high .recipient d mem below) _
  · have links := t.withItem_links item g.clock
    exact absurd ⟨links.brand, links.category, links.country⟩ unlinked

theorem listItem_runs {tell : StoreError → CatalogError} {event : Log.Event} :
    Work.Runs (do (writeItem item).told tell; Work.report event)
      (fun h => (∃ e, h = .refused e) ∧ ¬ ∀ kind, ∀ d ∈ denominationsOf item kind, ¬ d ≤ 0) g t
      fun _ g' p => p = some (t.withItem item g.clock) ∧ g'.clock = g.clock.next ∧
        ∀ kind, ∀ d ∈ denominationsOf item kind, ¬ d ≤ 0 := by
  refine .after (.told (.mono (writeItem_runs fun low _ => ⟨⟨_, rfl⟩, low⟩) ?_))
  exact fun _ _ _ _ listed => .report_then (.pure listed)

theorem upsertItem_acts (sound : flaw? item = none) :
    (upsertItem item).Acts
      (fun _ _ h => (∃ e, h = .refused e) ∧ ¬ ∀ kind, ∀ d ∈ denominationsOf item kind, ¬ d ≤ 0)
      fun _ t _ _ p => ∃ moment, p = some (t.withItem item moment) ∧
        ∀ kind, ∀ d ∈ denominationsOf item kind, ¬ d ≤ 0 := by
  unfold upsertItem
  rw [sound]
  refine .unit fun g _ => listItem_runs.mono fun _ _ _ _ listed => ?_
  exact ⟨g.clock, listed.1, listed.2.2⟩

theorem upsertItem_lawful (item : VendorItem) : (upsertItem item).Lawful fun _ => True := by
  cases sound : flaw? item with
  | some reason =>
    unfold upsertItem
    rw [sound]
    exact .refuse
  | none =>
    refine .acts (upsertItem_acts sound) fun g t _ g' p listed => ?_
    obtain ⟨moment, rfl, positive⟩ := listed
    exact .published trivial (.listed item sound moment positive)

theorem takeItems_lawful (r : Report) (items : List VendorItem) :
    (takeItems r items).Lawful fun _ => True := by
  induction items generalizing r with
  | nil => exact .pure trivial
  | cons item rest ih =>
    refine .after ?_ fun r => ih r
    refine .after (.attempt (upsertItem_lawful item)) fun tried => ?_
    cases tried with
    | ok => exact .pure trivial
    | error e => exact .report_then (.pure trivial)

theorem finished_lawful (r : Report) : (finished r).Lawful fun _ => True :=
  .report_then (.pure trivial)

theorem sweepFrom_lawful (pageSize left : Nat) (r : Report) :
    (sweepFrom pageSize left r).Lawful fun _ => True := by
  induction left generalizing r with
  | zero =>
    unfold sweepFrom
    refine .after (.ask fun _ => trivial) fun answer => ?_
    cases answer with
    | error e =>
      dsimp only
      split
      · exact .report_then .refuse
      · exact .report_then (finished_lawful _)
    | ok page => exact .breakOff
  | succ left ih =>
    unfold sweepFrom
    refine .after (.ask fun _ => trivial) fun answer => ?_
    cases answer with
    | error e =>
      dsimp only
      split
      · exact .report_then .refuse
      · exact .report_then (finished_lawful _)
    | ok page =>
      refine .after (takeItems_lawful _ _) fun r => ?_
      split
      · exact .breakOff
      · split
        · exact finished_lawful r
        · exact ih r

theorem sweep_lawful (pageSize : Nat) : (sweep pageSize).Lawful fun _ => True :=
  sweepFrom_lawful _ _ _

end CatalogSweep
end Treasury
