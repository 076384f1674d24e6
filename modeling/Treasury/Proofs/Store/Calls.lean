import Treasury.Proofs.Store.Logic
import Treasury.Proofs.Store.Writes

namespace Treasury.Work.Stages

variable {E : Halt StoreError → Prop} {g : Gauge} {t : Tables}

theorem read {f : Tables → α} {Q : α → Gauge → Tables → Prop} (post : Q (f t) g t) :
    (Store.read m neutral f).Stages E g t Q := call (staged post)

section Unit

variable {Q : Unit → Gauge → Tables → Prop}

theorem write (post : Q () g (f t)) : (Store.write m f).Stages E g t Q := call (stage post)

theorem insertWallet
    (free : t.walletOf? w.ownerId w.currency = none → t.wallet? w.id = none → Q () g (t.withWallet w))
    (taken : t.walletOf? w.ownerId w.currency ≠ none ∨ t.wallet? w.id ≠ none →
      E (.refused (.uniqueViolation "wallets_owner_id_currency_key"))) :
    (Store.insertWallet w).Stages E g t Q := by
  refine call (bind (staged ?_))
  split
  · rename_i held
    refine refuse (taken ?_)
    simpa [Option.isSome_iff_ne_none] using held
  · rename_i free'
    simp only [Bool.or_eq_true, not_or, Bool.not_eq_true, Option.isSome_eq_false_iff,
      Option.isNone_iff_eq_none] at free'
    exact stage (free free'.1 free'.2)

theorem updateWalletBalance {id : WalletId}
    (there : ∀ w, t.wallet? id = some w → ¬ balance < 0 →
      Q () { g with clock := g.clock.next } (t.withBalance id balance g.clock))
    (missing : t.wallet? id = none → E (.refused (Store.missingWallet id)))
    (negative : balance < 0 → E (.refused (.checkViolation "wallets_balance_check"))) :
    (Store.updateWalletBalance id balance).Stages E g t Q := by
  refine call (bind (staged (bind (found (fun w stored => ?_) missing))))
  split
  · rename_i below
    exact refuse (negative below)
  · rename_i enough
    exact bind (now (stage (there w stored enough)))

theorem updateWalletStatus {id : WalletId}
    (there : ∀ w, t.wallet? id = some w →
      Q () { g with clock := g.clock.next } (t.withStatus id status g.clock))
    (missing : t.wallet? id = none → E (.refused (Store.missingWallet id))) :
    (Store.updateWalletStatus id status).Stages E g t Q :=
  call (bind (staged (bind (found (fun w stored => bind (now (stage (there w stored)))) missing))))

theorem insertTransaction
    (free : (∀ key, r.idempotencyKey = some key → t.transactionOf? key = none) →
      Q () g (t.withTransaction r))
    (taken : ∀ key, r.idempotencyKey = some key → t.transactionOf? key ≠ none →
      E (.refused (.uniqueViolation "transactions_idempotency_key_key"))) :
    (Store.insertTransaction r).Stages E g t Q := by
  refine call (bind (staged ?_))
  cases keyed : r.idempotencyKey with
  | none =>
    rw [Option.any_none, if_neg Bool.false_ne_true]
    refine stage (free fun key same => ?_)
    rw [keyed] at same
    cases same
  | some key =>
    simp only [Option.any_some]
    split
    · rename_i held
      exact refuse (taken key keyed (Option.isSome_iff_ne_none.mp held))
    · rename_i open'
      refine stage (free fun key' same => ?_)
      cases keyed.symm.trans same
      simpa using open'

theorem insertRate (positive : ¬ r.rate ≤ 0 → Q () g (t.withRate r))
    (refused : r.rate ≤ 0 → E (.refused (.checkViolation "exchange_rates_rate_check"))) :
    (Store.insertRate r).Stages E g t Q := by
  refine call ?_
  split
  · rename_i low
    exact refuse (refused low)
  · rename_i high
    exact stage (positive high)

theorem insertReferral (free : t.referral? r.refereeId = none → Q () g (t.withReferral r))
    (taken : t.referral? r.refereeId ≠ none →
      E (.refused (.uniqueViolation "referrals_referee_id_key"))) :
    (Store.insertReferral r).Stages E g t Q := by
  refine call (bind (staged ?_))
  split
  · rename_i held
    exact refuse (taken (Option.isSome_iff_ne_none.mp held))
  · rename_i open'
    exact stage (free (by simpa using open'))

theorem upsertEarnings (consistent : e.isConsistent = .ok true → Q () g (t.withEarnings e))
    (inconsistent : e.isConsistent = .ok false →
      E (.refused (.checkViolation "referral_earnings_balance_check")))
    (overflow : ∀ operation, e.isConsistent = .error operation → E (.broken (.overflow operation))) :
    (Store.upsertEarnings e).Stages E g t Q := by
  refine call (bind (exactly (fun fine same => ?_) overflow))
  cases fine with
  | true =>
    rw [if_pos rfl]
    exact stage (consistent same)
  | false =>
    rw [if_neg Bool.false_ne_true]
    exact refuse (inconsistent same)

theorem updateWithdrawalRequest {id : WithdrawalId}
    (there : ∀ w, t.withdrawal? id = some w →
      Q () { g with clock := g.clock.next } (t.withDecided id status payout g.clock))
    (missing : t.withdrawal? id = none → E (.refused (Store.missingWithdrawal id))) :
    (Store.updateWithdrawalRequest id status payout).Stages E g t Q :=
  call (bind (staged (bind (found (fun w stored => bind (now (stage (there w stored)))) missing))))

end Unit

section Answer

variable {Q : Bool → Gauge → Tables → Prop}

theorem amendTransactionIf {id : TransactionId}
    (held : ∀ r, t.transaction? id = some r → r.status = expected →
      Q true { g with clock := g.clock.next } (t.withChanged id change g.clock))
    (other : (∀ r, t.transaction? id = some r → r.status ≠ expected) → Q false g t) :
    (Store.amendTransactionIf id expected change).Stages E g t Q := by
  refine bind (staged ?_)
  cases stored : t.transaction? id with
  | none => exact pure (other (by simp [stored]))
  | some r =>
    simp only [Option.any_some]
    split
    · rename_i same
      exact bind (now (bind (stage (pure (held r stored (by simpa using same))))))
    · rename_i differs
      refine pure (other fun r' again => ?_)
      cases stored.symm.trans again
      simpa using differs

theorem updateTransactionIf {id : TransactionId} {u : TransactionUpdate}
    (held : ∀ r, t.transaction? id = some r → r.status = expected →
      Q true { g with clock := g.clock.next } (t.withChanged id u.apply g.clock))
    (other : (∀ r, t.transaction? id = some r → r.status ≠ expected) → Q false g t) :
    (Store.updateTransactionIf id expected u).Stages E g t Q :=
  call (amendTransactionIf held other)

theorem touchTransactionIf {id : TransactionId}
    (held : ∀ r, t.transaction? id = some r → r.status = expected →
      Q true { g with clock := g.clock.next } (t.withTouched id g.clock))
    (other : (∀ r, t.transaction? id = some r → r.status ≠ expected) → Q false g t) :
    (Store.touchTransactionIf id expected).Stages E g t Q :=
  call (amendTransactionIf held other)

end Answer

theorem ledgerSumForWallet {id : WalletId} {Q : Decimal → Gauge → Tables → Prop}
    (ok : ∀ sum, t.walletSum id = .ok sum → Q sum g t)
    (overflow : ∀ operation, t.walletSum id = .error operation → E (.broken (.overflow operation))) :
    (Store.ledgerSumForWallet id).Stages E g t Q := call (bind (staged (exactly ok overflow)))

theorem lockEarnings {Q : Earnings → Gauge → Tables → Prop}
    (post : ∀ g', g.Before g' →
      Q (t.lockedEarnings user g.clock) g' (t.withLocked user g.clock)) :
    (Store.lockEarnings user).Stages E g t Q := by
  refine bind (call (bind (staged ?_)))
  cases stored : t.earnings? user with
  | some e =>
    refine pure (pure ?_)
    simpa [Tables.lockedEarnings, Tables.withLocked, stored] using post g (.refl g)
  | none =>
    refine bind (now (bind (stage (pure (pure ?_)))))
    simpa [Tables.lockedEarnings, Tables.withLocked, stored] using
      post { g with clock := g.clock.next } (Nat.le_refl _)

end Treasury.Work.Stages
