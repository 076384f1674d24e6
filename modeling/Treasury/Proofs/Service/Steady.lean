import Treasury.Proofs.Service.Lawful
import Treasury.Proofs.Store.Steady

namespace Treasury

namespace Work.Steady

variable {B : Breakdown → Prop}

theorem discard {w : Work ε α} (inner : w.Steady B) : (Functor.discard w).Steady B :=
  bind inner fun _ => pure ()

theorem amendTransactionIf (id : TransactionId) (expected : TransactionStatus)
    (change : Transaction → Transaction) :
    (Store.amendTransactionIf id expected change).Steady B := by
  refine bind (staged _) fun _ => ?_
  split
  · exact bind now fun _ => bind (stage _) fun _ => pure true
  · exact pure false

theorem newEntry (id : TransactionId) (account : Account) (currency : Currency)
    (amount settlement : Decimal) (balance : Option Decimal) :
    (Ledger.newEntry id account currency amount settlement balance : Work ε Entry).Steady B :=
  bind (issue _) fun _ => bind now fun _ => pure _

section Booking

variable (every : ∀ reason, B reason)
include every

theorem book (r : Except (Halt PostingError) Ledger.Movement) (id : TransactionId) :
    (Work.settled r >>= fun m => m.book id).Steady B := by
  refine bind ?_ fun m => bind (told ?_ _) fun _ => ?_
  · rcases r with (e | reason) | m
    · exact refuse e
    · exact breakOff (every reason)
    · exact pure m
  · refine call (bind (staged _) fun _ => bind (found _ _) fun _ => ?_)
    split
    · exact refuse _
    · exact bind now fun _ => stage _
  · refine bind (newEntry id _ _ _ _ _) fun _ => bind (told (write _ _) _) fun _ => ?_
    exact bind (report _) fun _ => pure _

theorem counterparty (id : TransactionId) (account : Account) (currency : Currency)
    (amount settlement : Decimal) :
    (Ledger.counterparty id account currency amount settlement).Steady B := by
  unfold Ledger.counterparty
  split
  · exact breakOff (every _)
  · exact bind (newEntry id _ _ _ _ _) fun _ => bind (told (write _ _) _) fun _ => pure _

theorem bookDifference (r : Transaction) (account : Account) (w : Wallet)
    (difference : External.Difference) : (External.bookDifference r account w difference).Steady B := by
  cases difference with
  | none => exact pure ()
  | refund amount => exact bind (book every _ _) fun _ => discard (counterparty every _ _ _ _ _)
  | charge amount => exact bind (book every _ _) fun _ => discard (counterparty every _ _ _ _ _)
  | shortfall amount => exact report _

theorem compensate (r : Transaction) (account : Account) : (External.compensate r account).Steady B := by
  refine bind (told (read _ _ _) _) fun _ => bind (found _ _) fun w => ?_
  refine bind (exactly _ fun _ => every _) fun total => told (bind (book every _ _) fun _ => ?_) _
  refine bind (counterparty every _ _ _ _ _) fun _ => ?_
  split
  · exact discard (counterparty every _ _ _ _ _)
  · exact pure ()

theorem adjust (r : Transaction) (account : Account) (reported : Decimal) :
    (External.adjust r account reported).Steady B := by
  refine bind (exactly _ fun _ => every _) fun actual => bind (exactly _ fun _ => every _) fun _ => ?_
  split
  · exact pure _
  · refine bind (told (read _ _ _) _) fun _ => bind (found _ _) fun w => ?_
    refine bind (told (bookDifference every r account w _) _) fun _ => ?_
    exact bind (report _) fun _ => pure _

theorem bookOutcome (r : Transaction) (provider : String) (outcome : Outcome) :
    (External.bookOutcome r provider outcome).Steady B := by
  cases outcome with
  | success reference settled =>
    cases settled with
    | none => exact pure _
    | some reported => exact bind (adjust every r _ reported) fun _ => pure _
  | failed reason reference => exact bind (compensate every r _) fun _ => pure _
  | unknown reference => exact pure _

end Booking

end Work.Steady

open Work in
theorem SettleCall.work_steady (c : SettleCall) : c.work.Steady fun _ => True := by
  refine .bind (.told (.read _ _ _) _) fun _ => .bind (.found _ _) fun r => ?_
  split
  · exact .bind (.report _) fun _ => .pure _
  · dsimp only
    split
    · refine .bind (.told (.call (.amendTransactionIf _ _ _)) _) fun _ => ?_
      exact .bind (.told .commit _) fun _ => .bind (.report _) fun _ => .pure _
    · split
      · exact .refuse _
      · refine .bind (.bookOutcome (fun _ => trivial) r _ _) fun noted => ?_
        refine .bind (.told (.call (.amendTransactionIf _ _ _)) _) fun changed => ?_
        split
        · exact .bind (.told .commit _) fun _ => .bind (.report _) fun _ => .pure _
        · exact .pure _

end Treasury
