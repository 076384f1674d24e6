import Treasury.Proofs.Identifier.Text
import Treasury.Proofs.Reward.Payout
import Treasury.Proofs.Settlement.Bookings
import Treasury.Proofs.World.Effects

namespace Treasury

def WithdrawalId.payoutKey (id : WithdrawalId) : String := "referral-withdrawal:" ++ toString id

theorem WithdrawalId.payoutKey_inj {a b : WithdrawalId} (same : a.payoutKey = b.payoutKey) : a = b :=
  toString_inj ((String.append_right_inj "referral-withdrawal:").mp same)

-- A client asked for the key, or it is that of the withdrawal which is paid out.
def Transaction.Sourced (asked : String → Prop) (r : Transaction) : Prop :=
  ∀ k, r.idempotencyKey = some k → asked k ∨
    ∃ number : WithdrawalId, r.kind = .referralPayout ∧ r.details = .referral number ∧
      k = number.payoutKey

namespace Transaction.Sourced

variable {asked : String → Prop} {r : Transaction}

theorem of_asked (keys : ∀ k, key = some k → asked k) (keyed : r.idempotencyKey = key) :
    r.Sourced asked := by
  intro k same
  exact .inl (keys k (keyed.symm.trans same))

theorem decided (sourced : r.Sourced asked) (c : SettleCall) (noted : Settlement) (moment : Instant) :
    (r.Decided c noted moment).Sourced asked := by
  intro k same
  refine (sourced k same).imp_right ?_
  intro own
  obtain ⟨number, kind, details, key⟩ := own
  refine ⟨number, kind, ?_, key⟩
  change r.details.settle noted = _
  rw [details]
  rfl

end Transaction.Sourced

namespace Tables

variable {g g' : Gauge} {t t' : Tables} {asked : String → Prop}

theorem sourced_settled (endures : t.Endures fun r _ => r.Sourced asked)
    (settles : Settles c t answer (some t')) : t'.Endures fun r _ => r.Sourced asked := by
  refine endures.settles (fun _ _ _ same => same) ?_ settles
  intro r legs noted moment stored current moves resolves
  exact (endures c.id r stored).decided c noted moment

theorem sourced_effect {operation : Operation} (endures : t.Endures fun r _ => r.Sourced asked)
    (orderly : t.Orderly g) (distinct : g'.Distinct) (later : g.Before g')
    (keys : ∀ k, operation.key? = some k → asked k) (effect : operation.Effect g t g' t') :
    t'.Endures fun r _ => r.Sourced asked := by
  cases effect.booking with
  | nothing transactions entries => exact endures.of_same transactions entries
  | own creates =>
    obtain ⟨r, legs, created, _, keyed⟩ := creates
    exact endures.created orderly distinct later created (.of_asked keys keyed)
  | payment payment =>
    cases payment with
    | reserved created _ keyed =>
      exact endures.created orderly distinct later created (.of_asked keys keyed)
    | settled c settles => exact sourced_settled endures settles
    | deferred id moment => exact endures.touched (fun _ _ _ same => same) id moment
  | settled c called settles => exact sourced_settled endures settles
  | @reward _ _ w _ _ _ before shape created after =>
    have noted := endures.of_same before.transactions before.entries
    refine (noted.created (orderly.same_books before) distinct later created ?_).of_same
      after.transactions after.entries
    intro k keyed
    rw [shape] at keyed ⊢
    exact .inr ⟨w.id, rfl, rfl, (Option.some.inj keyed).symm⟩

end Tables

namespace World

theorem run_sourced (events : List Event) (distinct : (run events).server.gauge.Distinct) :
    (run events).server.tables.Endures
      fun r _ => r.Sourced fun k => ∃ operation ∈ begun events, operation.key? = some k := by
  apply run_kept events distinct .empty
  intro early late operation g' t' split mem orderly next later endures effect
  have asked : operation ∈ begun events := by
    rw [split, begun, List.filterMap_append]
    exact List.mem_append_left _ mem
  exact Tables.sourced_effect endures orderly next later (fun k keyed => ⟨operation, asked, keyed⟩)
    effect

theorem payouts_of_run (events : List Event) (distinct : (run events).server.gauge.Distinct)
    (apart : (run events).server.gauge.Apart Supply.withdrawal) :
    (run events).server.tables.PaidOut :=
  (run_ordered [] (Gauge.distinct_of_le (by decide))).paidOut (.empty _) .empty events distinct apart

-- A transaction under the key of a withdrawal paid it out, or was asked for under this key.
theorem payoutKey_taken (events : List Event) (distinct : (run events).server.gauge.Distinct)
    (apart : (run events).server.gauge.Apart Supply.withdrawal) (w : Withdrawal)
    (stored : w ∈ (run events).server.tables.withdrawals)
    (taken : (run events).server.tables.transactionOf? w.id.payoutKey = some r) :
    w.status = .completed ∨ ∃ operation ∈ begun events, operation.key? = some w.id.payoutKey := by
  have single := (run_orderly events distinct).single
  have found := Rows.find?_of_mem single (List.mem_of_find?_eq_some taken)
  have keyed : r.idempotencyKey = some w.id.payoutKey := by simpa using List.find?_some taken
  rcases run_sourced events distinct r.id r found _ keyed with asked | ⟨number, kind, details, key⟩
  · exact .inr asked
  · have paidOut := payouts_of_run events distinct apart
    obtain ⟨paid, there, named⟩ := paidOut.owned r (List.mem_of_find?_eq_some taken) kind
    obtain ⟨r', found', pays, _⟩ := paidOut.paid paid there r.id named
    cases found.symm.trans found'
    have same : paid.id = w.id :=
      (Details.referral.inj (pays.details.symm.trans details)).trans
        (WithdrawalId.payoutKey_inj key).symm
    have filed := run_filed events apart
    have row := filed.found there
    rw [same, filed.found stored] at row
    cases row
    exact .inl ((paidOut.completed w stored).mpr (by rw [named]; rfl))

end World
end Treasury
