import Treasury.Ledger.Posting
import Treasury.Proofs.Decimal.Value
import Treasury.Proofs.Store.Calls

namespace Treasury

-- What an entry says beside its identifier, its time and the balance it left.
structure Line where
  account : Account
  currency : Currency
  amount : Decimal
  settlement : Decimal
deriving DecidableEq

def Entry.line (e : Entry) : Line := ⟨e.account, e.currency, e.amount, e.settlementAmount⟩

-- The wallet is the caller's copy of it.
inductive Leg where
  | debit (w : Wallet) (amount settlement : Decimal)
  | refund (w : Wallet) (amount settlement : Decimal)
  | credit (w : Wallet) (amount settlement : Decimal)
  | counterparty (account : Account) (currency : Currency) (amount settlement : Decimal)

namespace Leg

def line : Leg → Line
  | .debit w amount settlement => ⟨.wallet w.id, w.currency, -amount, -settlement⟩
  | .refund w amount settlement => ⟨.wallet w.id, w.currency, amount, settlement⟩
  | .credit w amount settlement => ⟨.wallet w.id, w.currency, amount, settlement⟩
  | .counterparty account currency amount settlement => ⟨account, currency, amount, settlement⟩

def wallet? : Leg → Option Wallet
  | .debit w _ _ => some w
  | .refund w _ _ => some w
  | .credit w _ _ => some w
  | .counterparty _ _ _ _ => none

def movement? : Leg → Option (Except (Halt PostingError) Ledger.Movement)
  | .debit w amount settlement => some (Ledger.Movement.debit w amount settlement)
  | .refund w amount settlement => some (Ledger.Movement.refund w amount settlement)
  | .credit w amount settlement => some (Ledger.Movement.credit w amount settlement)
  | .counterparty _ _ _ _ => none

def Makes (leg : Leg) (m : Ledger.Movement) : Prop := leg.movement? = some (.ok m)

end Leg

namespace Ledger.Movement

variable {w : Wallet} {amount settlement : Decimal} {m : Movement}

theorem refund_parts (made : refund w amount settlement = .ok m) :
    ¬ amount ≤ 0 ∧ w.balance.add amount = .ok m.balance ∧ m = ⟨w, amount, settlement, m.balance⟩ := by
  unfold refund at made
  split at made
  · cases made
  · rename_i positive
    cases sum : w.balance.add amount with
    | error operation => simp [sum, Halt.ofOverflow, Except.map] at made
    | ok balance =>
      simp only [sum, Halt.ofOverflow, Except.map, Except.ok.injEq] at made
      subst made
      exact ⟨positive, rfl, rfl⟩

theorem credit_parts (made : credit w amount settlement = .ok m) :
    w.canCredit = true ∧ refund w amount settlement = .ok m := by
  unfold credit at made
  split at made
  · cases made
  · rename_i open'
    exact ⟨by simpa using open', made⟩

theorem debit_parts (made : debit w amount settlement = .ok m) :
    ¬ amount ≤ 0 ∧ w.canDebit = true ∧ ¬ w.balance < amount ∧ w.balance.sub amount = .ok m.balance ∧
      m = ⟨w, -amount, -settlement, m.balance⟩ := by
  unfold debit at made
  split at made
  · cases made
  · rename_i positive
    split at made
    · cases made
    · rename_i active
      split at made
      · cases made
      · rename_i covered
        cases rest : w.balance.sub amount with
        | error operation => simp [rest, Halt.ofOverflow, Except.map] at made
        | ok balance =>
          simp only [rest, Halt.ofOverflow, Except.map, Except.ok.injEq] at made
          subst made
          exact ⟨positive, by simpa using active, covered, rfl, rfl⟩

end Ledger.Movement

namespace Leg.Makes

variable {leg : Leg} {m : Ledger.Movement}

-- The new balance is the sum of the old one and the entry's amount, also where a debit takes
-- the opposite amount away.
theorem adds (made : leg.Makes m) : m.wallet.balance.add m.amount = .ok m.balance := by
  cases leg with
  | debit w amount settlement =>
    obtain ⟨positive, _, _, taken, shape⟩ := Ledger.Movement.debit_parts (Option.some.inj made)
    rw [shape]
    exact Decimal.add_neg_of_sub (Decimal.not_isZero_of_pos positive) taken
  | refund w amount settlement =>
    obtain ⟨_, added, shape⟩ := Ledger.Movement.refund_parts (Option.some.inj made)
    rw [shape]
    exact added
  | credit w amount settlement =>
    obtain ⟨_, refunded⟩ := Ledger.Movement.credit_parts (Option.some.inj made)
    obtain ⟨_, added, shape⟩ := Ledger.Movement.refund_parts refunded
    rw [shape]
    exact added
  | counterparty => cases made

theorem shape (made : leg.Makes m) : leg.wallet? = some m.wallet ∧
    leg.line = ⟨.wallet m.wallet.id, m.wallet.currency, m.amount, m.settlement⟩ := by
  cases leg with
  | debit w amount settlement =>
    obtain ⟨_, _, _, _, shape⟩ := Ledger.Movement.debit_parts (Option.some.inj made)
    rw [shape]
    exact ⟨rfl, rfl⟩
  | refund w amount settlement =>
    obtain ⟨_, _, shape⟩ := Ledger.Movement.refund_parts (Option.some.inj made)
    rw [shape]
    exact ⟨rfl, rfl⟩
  | credit w amount settlement =>
    obtain ⟨_, refunded⟩ := Ledger.Movement.credit_parts (Option.some.inj made)
    obtain ⟨_, _, shape⟩ := Ledger.Movement.refund_parts refunded
    rw [shape]
    exact ⟨rfl, rfl⟩
  | counterparty => cases made

theorem copy (made : leg.Makes m) : leg.wallet? = some m.wallet := made.shape.1

theorem line (made : leg.Makes m) :
    leg.line = ⟨.wallet m.wallet.id, m.wallet.currency, m.amount, m.settlement⟩ := made.shape.2

end Leg.Makes

-- One leg booked. A wallet leg needs the copy to be the stored row, and a balance that the
-- store accepts.
inductive Posts (id : TransactionId) : Tables → Leg → Tables → Prop where
  | wallet (m : Ledger.Movement) (made : leg.Makes m) (stored : t.wallet? m.wallet.id = some m.wallet)
      (accepted : ¬ m.balance < 0) :
      Posts id t leg ((t.withBalance m.wallet.id m.balance written).withEntry
        ⟨number, id, .wallet m.wallet.id, m.wallet.currency, m.amount, m.settlement,
          some m.balance, true, posted⟩)
  | counterparty (outside : account.walletId? = none) :
      Posts id t (.counterparty account currency amount settlement)
        (t.withEntry ⟨number, id, account, currency, amount, settlement, none,
          account.isOnPlatform, posted⟩)

inductive Books (id : TransactionId) : Tables → List Leg → Tables → Prop where
  | nil : Books id t [] t
  | cons (posts : Posts id t leg t') (rest : Books id t' legs t'') : Books id t (leg :: legs) t''

def Wallet.face (w : Wallet) : WalletId × Int × Currency × WalletType :=
  (w.id, w.ownerId, w.currency, w.walletType)

namespace Posts

variable {t t' : Tables} {leg : Leg} {id : TransactionId}

theorem frame (posts : Posts id t leg t') :
    t' = { t with wallets := t'.wallets, entries := t'.entries } := by
  cases posts <;> rfl

theorem entry (posts : Posts id t leg t') :
    ∃ e, t'.entries = t.entries ++ [e] ∧ e.transactionId = id ∧ e.line = leg.line := by
  cases posts with
  | wallet m made => exact ⟨_, rfl, rfl, made.line.symm⟩
  | counterparty => exact ⟨_, rfl, rfl, rfl⟩

-- An entry tells whether its account is on the platform.
theorem platform (posts : Posts id t leg t') :
    ∃ e, t'.entries = t.entries ++ [e] ∧ e.onPlatform = e.account.isOnPlatform := by
  cases posts with
  | wallet => exact ⟨_, rfl, rfl⟩
  | counterparty => exact ⟨_, rfl, rfl⟩

theorem faces (posts : Posts id t leg t') :
    t'.wallets.map Wallet.face = t.wallets.map Wallet.face := by
  cases posts with
  | counterparty => rfl
  | wallet => exact Rows.map_amend fun _ _ => rfl

theorem wallet?_other (posts : Posts id t leg t') (other : leg.line.account ≠ .wallet w) :
    t'.wallet? w = t.wallet? w := by
  cases posts with
  | counterparty => rfl
  | wallet m made =>
    refine Rows.find?_amend_other (by intros; rfl) fun same => other ?_
    rw [made.line, same]

end Posts

namespace Books

variable {t t' : Tables} {legs : List Leg} {id : TransactionId}

theorem one (posts : Posts id t leg t') : Books id t [leg] t' := .cons posts .nil

theorem frame (books : Books id t legs t') :
    t' = { t with wallets := t'.wallets, entries := t'.entries } := by
  induction books with
  | nil => rfl
  | cons posts _ ih =>
    rw [ih, posts.frame]

theorem transactions (books : Books id t legs t') : t'.transactions = t.transactions := by
  rw [books.frame]

theorem faces (books : Books id t legs t') :
    t'.wallets.map Wallet.face = t.wallets.map Wallet.face := by
  induction books with
  | nil => rfl
  | cons posts _ ih => exact ih.trans posts.faces

theorem entries (books : Books id t legs t') :
    ∃ es, t'.entries = t.entries ++ es ∧ (∀ e ∈ es, e.transactionId = id) ∧
      es.map Entry.line = legs.map Leg.line := by
  induction books with
  | nil => exact ⟨[], by simp, by simp, rfl⟩
  | cons posts _ ih =>
    obtain ⟨e, appended, same, line⟩ := posts.entry
    obtain ⟨es, later, all, lines⟩ := ih
    refine ⟨e :: es, ?_, ?_, ?_⟩
    · rw [later, appended, List.append_assoc, List.singleton_append]
    · simpa [same] using all
    · rw [List.map_cons, line, lines, List.map_cons]

theorem platforms (books : Books id t legs t') :
    ∃ es, t'.entries = t.entries ++ es ∧ ∀ e ∈ es, e.onPlatform = e.account.isOnPlatform := by
  induction books with
  | nil => exact ⟨[], by simp, by simp⟩
  | cons posts _ ih =>
    obtain ⟨e, appended, placed⟩ := posts.platform
    obtain ⟨es, later, all⟩ := ih
    refine ⟨e :: es, ?_, ?_⟩
    · rw [later, appended, List.append_assoc, List.singleton_append]
    · simpa [placed] using all

theorem owners {ids : List TransactionId} (books : Books id t legs t') (mine : id ∈ ids)
    (before : ∀ e ∈ t.entries, e.transactionId ∈ ids) : ∀ e ∈ t'.entries, e.transactionId ∈ ids := by
  obtain ⟨es, appended, all, _⟩ := books.entries
  intro e mem
  rw [appended] at mem
  rcases List.mem_append.mp mem with old | new
  · exact before e old
  · exact all e new ▸ mine

theorem entriesOf_same (books : Books id t legs t') :
    (t'.entriesOf id).map Entry.line = (t.entriesOf id).map Entry.line ++ legs.map Leg.line := by
  obtain ⟨es, appended, all, lines⟩ := books.entries
  have kept : es.filter (fun e => e.transactionId = id) = es := by
    rw [List.filter_eq_self]
    simpa using all
  rw [Tables.entriesOf, appended, List.filter_append, kept, List.map_append, lines]
  rfl

theorem entriesOf_other (books : Books id t legs t') (other : id' ≠ id) :
    t'.entriesOf id' = t.entriesOf id' := by
  obtain ⟨es, appended, all, _⟩ := books.entries
  have dropped : es.filter (fun e => e.transactionId = id') = [] := by
    rw [List.filter_eq_nil_iff]
    intro e mem
    simpa [all e mem] using other.symm
  rw [Tables.entriesOf, appended, List.filter_append, dropped, List.append_nil]
  rfl

end Books

namespace Work.Stages

variable {g : Gauge} {t : Tables} {id : TransactionId}

theorem newEntry {E : Halt ε → Prop} {Q : Entry → Gauge → Tables → Prop}
    (post : Q ⟨g.supply.entry, id, account, currency, amount, settlement, balance, account.isOnPlatform,
      g.clock⟩ ⟨g.supply.next, g.clock.next⟩ t) :
    (Ledger.newEntry id account currency amount settlement balance).Stages E g t Q :=
  bind (issue (bind (now (pure post))))

variable {E : Halt PostingError → Prop} {Q : Entry → Gauge → Tables → Prop}

theorem book {m : Ledger.Movement} (made : leg.Makes m) (stored : t.wallet? m.wallet.id = some m.wallet)
    (post : ∀ e g' t', g.Before g' → Posts id t leg t' → Q e g' t')
    (short : m.balance < 0 → E (.refused (.store (.checkViolation "wallets_balance_check")))) :
    (m.book id).Stages E g t Q := by
  refine bind (told (updateWalletBalance (fun w again accepted => ?_) (fun missing => ?_) short))
  · refine bind (newEntry (bind (told (write (bind (report (pure ?_)))))))
    exact post _ _ _ (Nat.le_succ _) (.wallet m made stored accepted)
  · rw [stored] at missing
    cases missing

theorem move (leg : Leg) (moves : leg.movement? = some movement) (held : leg.wallet? = some w)
    (stored : t.wallet? w.id = some w)
    (post : ∀ e g' t', g.Before g' → Posts id t leg t' → Q e g' t')
    (refused : ∀ h, movement = .error h → E h)
    (short : ∀ m, leg.Makes m → m.balance < 0 →
      E (.refused (.store (.checkViolation "wallets_balance_check")))) :
    (Work.settled movement >>= fun m => m.book id).Stages E g t Q := by
  refine bind (settled (fun m ok => ?_) refused)
  have made : leg.Makes m := by rw [Leg.Makes, moves, ok]
  have copy : w = m.wallet := Option.some.inj (held.symm.trans made.copy)
  exact book made (copy ▸ stored) post (short m made)

theorem debit (stored : t.wallet? w.id = some w)
    (post : ∀ e g' t', g.Before g' → Posts id t (.debit w amount settlement) t' → Q e g' t')
    (refused : ∀ h, Ledger.Movement.debit w amount settlement = .error h → E h)
    (short : ∀ m, Leg.Makes (.debit w amount settlement) m → m.balance < 0 →
      E (.refused (.store (.checkViolation "wallets_balance_check")))) :
    (Ledger.debit w id amount settlement).Stages E g t Q :=
  move (.debit w amount settlement) rfl rfl stored post refused short

theorem refund (stored : t.wallet? w.id = some w)
    (post : ∀ e g' t', g.Before g' → Posts id t (.refund w amount settlement) t' → Q e g' t')
    (refused : ∀ h, Ledger.Movement.refund w amount settlement = .error h → E h)
    (short : ∀ m, Leg.Makes (.refund w amount settlement) m → m.balance < 0 →
      E (.refused (.store (.checkViolation "wallets_balance_check")))) :
    (Ledger.refund w id amount settlement).Stages E g t Q :=
  move (.refund w amount settlement) rfl rfl stored post refused short

theorem credit (stored : t.wallet? w.id = some w)
    (post : ∀ e g' t', g.Before g' → Posts id t (.credit w amount settlement) t' → Q e g' t')
    (refused : ∀ h, Ledger.Movement.credit w amount settlement = .error h → E h)
    (short : ∀ m, Leg.Makes (.credit w amount settlement) m → m.balance < 0 →
      E (.refused (.store (.checkViolation "wallets_balance_check")))) :
    (Ledger.credit w id amount settlement).Stages E g t Q :=
  move (.credit w amount settlement) rfl rfl stored post refused short

theorem counterparty (outside : account.walletId? = none)
    (post : ∀ e g' t', g.Before g' →
      Posts id t (.counterparty account currency amount settlement) t' → Q e g' t') :
    (Ledger.counterparty id account currency amount settlement).Stages E g t Q := by
  unfold Ledger.counterparty
  rw [outside, if_neg (by simp)]
  refine bind (newEntry (bind (told (write (pure ?_)))))
  exact post _ _ _ (Nat.le_succ _) (.counterparty outside)

end Work.Stages
end Treasury
