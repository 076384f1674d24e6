import Treasury.Proofs.Service.Units

namespace Treasury

open External

-- Why a call that settles is refused where no fault strikes it. The last three cannot happen to
-- a transaction whose wallet is there and holds no negative balance.
inductive SettleCall.Refused (c : SettleCall) (t : Tables) : Halt TransactionError → Prop where
  | missing (unknown : t.transaction? c.id = none) : Refused c t (.refused (.transactionNotFound c.id))
  | barred (stored : t.transaction? c.id = some r) (current : r.status = c.expected)
      (differs : c.outcome.status ≠ c.expected)
      (barred : c.expected.canBecome c.outcome.status = false) :
      Refused c t (.refused (.invalidStateTransition c.id c.expected c.outcome.status))
  | overflow : Refused c t (.broken (.overflow operation))
  | orphaned (stored : t.transaction? c.id = some r) (unheld : t.wallet? r.walletId = none) :
      Refused c t h
  | unsound (stored : t.transaction? c.id = some r) (held : t.wallet? r.walletId = some w)
      (low : w.balance < 0) : Refused c t h
  | worthless (stored : t.transaction? c.id = some r) (sum : r.total = .ok total) (low : total ≤ 0) :
      Refused c t h

-- A sum that settling a record for an outcome takes, and that no decimal holds.
inductive External.Uncounted (t : Tables) (r : Transaction) : Outcome → Decimal.Overflow → Prop where
  | price (actual : actualAmount r reported = .error operation) :
      Uncounted t r (.success reference (some reported)) operation
  | difference (actual : actualAmount r reported = .ok price)
      (taken : price.sub r.amount = .error operation) :
      Uncounted t r (.success reference (some reported)) operation
  | given (actual : actualAmount r reported = .ok price)
      (taken : price.sub r.amount = .ok difference) (stored : t.wallet? r.walletId = some w)
      (sum : w.balance.add (-difference) = .error operation) :
      Uncounted t r (.success reference (some reported)) operation
  | charged (actual : actualAmount r reported = .ok price)
      (taken : price.sub r.amount = .ok difference) (stored : t.wallet? r.walletId = some w)
      (rest : w.balance.sub difference = .error operation) :
      Uncounted t r (.success reference (some reported)) operation
  | total (sum : r.total = .error operation) : Uncounted t r (.failed reason reference) operation
  | returned (sum : r.total = .ok total) (stored : t.wallet? r.walletId = some w)
      (balance : w.balance.add total = .error operation) :
      Uncounted t r (.failed reason reference) operation

namespace Ledger.Movement

variable {w : Wallet} {amount settlement : Decimal} {m : Movement}

theorem refund_error (stopped : refund w amount settlement = .error h) (positive : ¬ amount ≤ 0) :
    ∃ operation, w.balance.add amount = .error operation ∧ h = .broken (.overflow operation) := by
  rw [refund, if_neg positive] at stopped
  cases sum : w.balance.add amount with
  | ok balance => simp [sum, Halt.ofOverflow, Except.map] at stopped
  | error operation =>
    rw [sum] at stopped
    cases stopped
    exact ⟨_, rfl, rfl⟩

theorem debit_error (stopped : debit w amount settlement = .error h) (positive : ¬ amount ≤ 0)
    (active : w.canDebit = true) (covered : ¬ w.balance < amount) :
    ∃ operation, w.balance.sub amount = .error operation ∧ h = .broken (.overflow operation) := by
  rw [debit, if_neg positive, active, Bool.not_true, if_neg Bool.false_ne_true, if_neg covered] at stopped
  cases rest : w.balance.sub amount with
  | ok balance => simp [rest, Halt.ofOverflow, Except.map] at stopped
  | error operation =>
    rw [rest] at stopped
    cases stopped
    exact ⟨_, rfl, rfl⟩

theorem credit_error (stopped : credit w amount settlement = .error h) (open_ : w.canCredit = true)
    (positive : ¬ amount ≤ 0) :
    ∃ operation, w.balance.add amount = .error operation ∧ h = .broken (.overflow operation) := by
  rw [credit, open_, Bool.not_true, if_neg Bool.false_ne_true] at stopped
  exact refund_error stopped positive

theorem refund_short (made : refund w amount settlement = .ok m) (below : m.balance < 0) :
    w.balance < 0 := by
  obtain ⟨positive, added, _⟩ := refund_parts made
  by_contra sound
  have amount : ¬ amount < 0 := by
    rw [Decimal.not_lt_iff, Decimal.le_iff_value]
    rw [Decimal.not_le_iff, Decimal.lt_iff_value] at positive
    exact le_of_lt positive
  exact Decimal.add_not_neg sound amount added below

theorem debit_covered (made : debit w amount settlement = .ok m) : ¬ m.balance < 0 := by
  obtain ⟨_, _, covered, taken, _⟩ := debit_parts made
  exact Decimal.sub_not_neg covered taken

end Ledger.Movement

namespace Work.Stages

variable {E : Halt PostingError → Prop} {g : Gauge} {t : Tables} {id : TransactionId}

theorem refund_sound {Q : Entry → Gauge → Tables → Prop} (stored : t.wallet? w.id = some w)
    (post : ∀ e g' t', g.Before g' → Posts id t (.refund w amount settlement) t' → Q e g' t')
    (broken : ∀ operation, w.balance.add amount = .error operation → E (.broken (.overflow operation)))
    (worthless : amount ≤ 0 → ∀ e, E (.refused e)) (unsound : w.balance < 0 → ∀ e, E (.refused e)) :
    (Ledger.refund w id amount settlement).Stages E g t Q := by
  refine refund stored post (fun h stopped => ?_) (fun m made below => ?_)
  · by_cases low : amount ≤ 0
    · rw [Ledger.Movement.refund, if_pos low] at stopped
      cases stopped
      exact worthless low _
    · obtain ⟨operation, sum, rfl⟩ := Ledger.Movement.refund_error stopped low
      exact broken operation sum
  · exact unsound (Ledger.Movement.refund_short (Option.some.inj made) below) _

theorem debit_sound {Q : Entry → Gauge → Tables → Prop} (stored : t.wallet? w.id = some w)
    (positive : ¬ amount ≤ 0) (active : w.canDebit = true) (covered : ¬ w.balance < amount)
    (post : ∀ e g' t', g.Before g' → Posts id t (.debit w amount settlement) t' → Q e g' t')
    (broken : ∀ operation, w.balance.sub amount = .error operation → E (.broken (.overflow operation))) :
    (Ledger.debit w id amount settlement).Stages E g t Q := by
  refine debit stored post (fun h stopped => ?_) (fun m made below => ?_)
  · obtain ⟨operation, rest, rfl⟩ := Ledger.Movement.debit_error stopped positive active covered
    exact broken operation rest
  · exact absurd below (Ledger.Movement.debit_covered (Option.some.inj made))

theorem bookDifference {Q : Unit → Gauge → Tables → Prop} (stored : t.wallet? w.id = some w)
    (outside : account.walletId? = none) (something : difference.isZero = false)
    (post : ∀ g' t', g.Before g' →
      Books r.id t (differenceLegs r account w (.of difference w)) t' → Q () g' t')
    (given : ∀ operation, w.balance.add (-difference) = .error operation →
      E (.broken (.overflow operation)))
    (charged : ∀ operation, w.balance.sub difference = .error operation →
      E (.broken (.overflow operation))) (unsound : w.balance < 0 → ∀ e, E (.refused e)) :
    (External.bookDifference r account w (.of difference w)).Stages E g t Q := by
  have apart : difference.value ≠ 0 := by
    rw [Ne, ← Decimal.isZero_iff_value, something]
    exact Bool.false_ne_true
  unfold Difference.of at post ⊢
  split
  · rename_i below
    rw [if_pos below] at post
    have positive : ¬ -difference ≤ 0 := by
      rw [Decimal.not_le_iff, Decimal.lt_iff_value, Decimal.value_neg, Decimal.value_zero]
      rw [Decimal.lt_iff_value, Decimal.value_zero] at below
      linarith
    refine bind (refund_sound stored (fun _ g₁ t₁ later returned => ?_) given
      (fun low => absurd low positive) unsound)
    refine discard (counterparty outside fun _ g₂ t₂ latest taken => ?_)
    exact post g₂ t₂ (later.trans latest) (.cons returned (.one taken))
  · rename_i above
    rw [if_neg above] at post
    split
    · rename_i payable
      rw [if_pos payable] at post
      have positive : ¬ difference ≤ 0 := by
        rw [Decimal.not_le_iff, Decimal.lt_iff_value, Decimal.value_zero]
        rw [Decimal.lt_iff_value, Decimal.value_zero, not_lt] at above
        exact lt_of_le_of_ne above (Ne.symm apart)
      refine bind (debit_sound stored positive payable.1 (Decimal.not_lt_iff.mpr payable.2)
        (fun _ g₁ t₁ later paid => ?_) charged)
      refine discard (counterparty outside fun _ g₂ t₂ latest received => ?_)
      exact post g₂ t₂ (later.trans latest) (.cons paid (.one received))
    · rename_i short
      rw [if_neg short] at post
      exact report (post g t (.refl g) .nil)

structure Open (E : Halt TransactionError → Prop) (t : Tables) (r : Transaction)
    (outcome : Outcome) : Prop where
  broken : ∀ operation, External.Uncounted t r outcome operation → E (.broken (.overflow operation))
  orphaned : t.wallet? r.walletId = none → ∀ e, E (.refused e)
  unsound : ∀ w, t.wallet? r.walletId = some w → w.balance < 0 → ∀ e, E (.refused e)
  worthless : ∀ total, r.total = .ok total → total ≤ 0 → ∀ e, E (.refused e)

theorem compensate {E : Halt TransactionError → Prop} {Q : Unit → Gauge → Tables → Prop}
    (outside : account.walletId? = none)
    (post : ∀ w total g' t', t.wallet? r.walletId = some w → r.total = .ok total → g.Before g' →
      Books r.id t (compensationLegs r w account total) t' → Q () g' t')
    (left : Open E t r (.failed reason reference)) :
    (External.compensate r account).Stages E g t Q := by
  refine bind (told (read (bind (found (fun w stored => ?_) fun unheld => left.orphaned unheld _))))
  refine bind (exactly (fun total sum => ?_) fun _ sum => left.broken _ (.total sum))
  have number : w.id = r.walletId := Rows.key_of_find? stored
  refine told (bind (refund_sound (number ▸ stored) (fun _ g₁ t₁ later returned => ?_)
    (fun _ balance => left.broken _ (.returned sum stored balance))
    (fun low _ => left.worthless total sum low _)
    (fun low _ => left.unsound w stored low _)))
  refine bind (counterparty outside fun _ g₂ t₂ later' taken => ?_)
  have soFar := later.trans later'
  have finish := post w total
  unfold compensationLegs at finish
  split
  · rename_i due
    rw [if_pos due] at finish
    refine discard (counterparty rfl fun _ g₃ t₃ latest dropped => ?_)
    exact finish g₃ t₃ stored sum (soFar.trans latest) (.cons returned (.cons taken (.one dropped)))
  · rename_i free
    rw [if_neg free] at finish
    exact pure (finish g₂ t₂ stored sum soFar (.cons returned (.one taken)))

theorem adjust {E : Halt TransactionError → Prop} {Q : Difference → Gauge → Tables → Prop}
    (outside : account.walletId? = none)
    (same : ∀ price difference, actualAmount r reported = .ok price →
      price.sub r.amount = .ok difference → difference.isZero = true → Q .none g t)
    (other : ∀ price difference w g' t', actualAmount r reported = .ok price →
      price.sub r.amount = .ok difference → difference.isZero = false →
      t.wallet? r.walletId = some w → g.Before g' →
      Books r.id t (differenceLegs r account w (.of difference w)) t' → Q (.of difference w) g' t')
    (left : Open E t r (.success reference (some reported))) :
    (External.adjust r account reported).Stages E g t Q := by
  refine bind (exactly (fun price actual => ?_) fun _ actual => left.broken _ (.price actual))
  refine bind (exactly (fun difference taken => ?_)
    fun _ taken => left.broken _ (.difference actual taken))
  cases nothing : difference.isZero with
  | true =>
    rw [if_pos rfl]
    exact pure (same price difference actual taken nothing)
  | false =>
    rw [if_neg Bool.false_ne_true]
    refine bind (told (read (bind (found (fun w stored => ?_) fun unheld => left.orphaned unheld _))))
    have number : w.id = r.walletId := Rows.key_of_find? stored
    refine bind (told (bookDifference (number ▸ stored) outside nothing (fun g₁ t₁ later books => ?_)
      (fun _ sum => left.broken _ (.given actual taken stored sum))
      (fun _ rest => left.broken _ (.charged actual taken stored rest))
      (fun low _ => left.unsound w stored low _)))
    exact bind (report (pure (other price difference w g₁ t₁ actual taken nothing stored later books)))

theorem bookOutcome {E : Halt TransactionError → Prop} {Q : Settlement → Gauge → Tables → Prop}
    (post : ∀ legs noted g' t', g.Before g' → Resolves t r provider outcome legs noted →
      Books r.id t legs t' → Q noted g' t')
    (left : Open E t r outcome) : (External.bookOutcome r provider outcome).Stages E g t Q := by
  cases outcome with
  | success reference settled =>
    cases settled with
    | none => exact pure (post _ _ g t (.refl g) .accepted .nil)
    | some settled =>
      refine bind (adjust rfl (fun price difference actual taken nothing => ?_)
        (fun price difference w g' t' actual taken something stored later books => ?_) left)
      · exact pure (post _ _ g t (.refl g) (.exact actual taken nothing) .nil)
      · exact pure (post _ _ g' t' later (.adjusted actual taken something stored) books)
  | failed reason reference =>
    refine bind (compensate rfl (fun w total g' t' stored sum later books => ?_) left)
    exact pure (post _ _ g' t' later (.compensated stored sum) books)
  | unknown reference => exact pure (post _ _ g t (.refl g) .waiting .nil)

end Work.Stages

-- What a settlement answers has taken the update as the stored row takes it.
theorem External.settledRecord_eq (r : Transaction) (u : TransactionUpdate) :
    settledRecord r u = u.apply r := by
  obtain ⟨status, _ | reference, _ | failure, details⟩ := u <;> rfl

namespace SettleCall

open Work

theorem work_runs (c : SettleCall) :
    c.work.Runs (c.Refused t) g t (fun answer _ p => Settles c t answer p) := by
  refine .bind (.told (.read (.bind (.found (fun r stored => ?_) fun unknown => .missing unknown))))
  split
  · rename_i moved
    exact .bind (.report (.pure (.stale stored moved)))
  · rename_i current
    rw [Decidable.not_not] at current
    dsimp only
    split
    · rename_i again
      refine .bind (.told (.touchTransactionIf (fun _ _ _ => ?_) (fun other => ?_)))
      · exact .after (.told (.commit (.report_then (.pure (.touched stored current again)))))
      · exact absurd current (other r stored)
    · rename_i differs
      split
      · rename_i barred
        exact .refuse (.barred stored current differs (by simpa using barred))
      · rename_i moves
        have moves : c.expected.canBecome c.outcome.status = true := by simpa using moves
        have left : Work.Stages.Open (c.Refused t) t r c.outcome := ⟨fun _ _ => .overflow,
          fun unheld _ => .orphaned stored unheld, fun _ held low _ => .unsound stored held low,
          fun _ sum low _ => .worthless stored sum low⟩
        refine .bind (.bookOutcome (fun legs noted g' t' later resolves books => ?_) left)
        have number : r.id = c.id := Rows.key_of_find? stored
        rw [number] at books
        have kept : t'.transaction? c.id = some r := by
          rw [Tables.transaction?, books.transactions]
          exact stored
        refine .bind (.told (.updateTransactionIf (fun _ _ _ => ?_) (fun other => ?_)))
        · rw [if_pos rfl]
          refine .after (.told (.commit (.report_then (.pure ?_))))
          rw [External.settledRecord_eq]
          exact .decided stored current moves resolves books
        · exact absurd current (other r kept)

theorem act_ended (c : SettleCall) {s : Server} (honest : s.Honest) :
    s.Ended (c.Refused s.tables) (fun answer _ p => Settles c s.tables answer p)
      (c.act s).1 (c.act s).2 := s.unit_ended c.work_runs honest

end SettleCall
end Treasury
