import Treasury.Proofs.Settlement.Bookings
import Treasury.Proofs.World.Effects

namespace Treasury

open External Transactions

-- Every account outside that the lines of a payment name is that of a registered provider.
def Transaction.Under (providers : Registry) (r : Transaction) (lines : List Line) : Prop :=
  r.kind.isExternal = true → ∀ l ∈ lines, l.account.isOnPlatform = false →
    ∃ provider, providers.Names r.platform provider ∧ l.account = providerAccount r.platform provider

theorem Leg.outside_fees {leg : Leg} (mem : leg ∈ feeLegs currency fee) :
    leg.line.account.isOnPlatform = true := by
  unfold feeLegs at mem
  split at mem
  · rw [List.mem_singleton] at mem
    rw [mem]
    rfl
  · cases mem

-- A reservation and a decision book outside only under the name of the provider.
theorem reservationLegs_outside {leg : Leg} (mem : leg ∈ reservationLegs r w provider total)
    (outside : leg.line.account.isOnPlatform = false) :
    leg.line.account = providerAccount r.platform provider := by
  unfold reservationLegs at mem
  rcases List.mem_cons.mp mem with rfl | mem
  · cases outside
  · rcases List.mem_cons.mp mem with rfl | mem
    · rfl
    · rw [Leg.outside_fees mem] at outside
      cases outside

theorem Resolves.outside {leg : Leg} (resolves : Resolves t r provider outcome legs noted)
    (mem : leg ∈ legs) (outside : leg.line.account.isOnPlatform = false) :
    leg.line.account = providerAccount r.platform provider := by
  cases resolves with
  | accepted => cases mem
  | exact => cases mem
  | waiting => cases mem
  | @adjusted _ _ difference w _ _ _ something stored =>
    cases found : Difference.of difference w with
    | none | shortfall _ =>
      rw [found] at mem
      cases mem
    | refund amount | charge amount =>
      rw [found] at mem
      simp only [differenceLegs, List.mem_cons, List.not_mem_nil, or_false] at mem
      rcases mem with rfl | rfl
      · cases outside
      · rfl
  | compensated stored sum =>
    unfold compensationLegs at mem
    rcases List.mem_cons.mp mem with rfl | mem
    · cases outside
    · rcases List.mem_cons.mp mem with rfl | mem
      · rfl
      · split at mem
        · rw [List.mem_singleton] at mem
          rw [mem] at outside
          cases outside
        · cases mem

namespace Tables

variable {g g' : Gauge} {t t' : Tables} {providers : Registry}

theorem under_settled (endures : t.Endures (Transaction.Under providers)) (orderly : t.Orderly g)
    (settles : Settles c t answer (some t'))
    (named : ∀ r, t.transaction? c.id = some r → r.platform.isExternal = true →
      providers.Names r.platform c.provider) : t'.Endures (Transaction.Under providers) := by
  refine endures.settles (fun _ _ _ under => under) ?_ settles
  intro r legs noted moment stored current moves resolves external l mem outside
  have platform := (Transaction.Decided.kin r c noted moment).platform
  rw [platform]
  rcases List.mem_append.mp mem with old | new
  · exact endures c.id r stored external l old outside
  · obtain ⟨leg, there, rfl⟩ := List.mem_map.mp new
    have standing := orderly.standing r (Rows.mem_of_find? stored)
    obtain ⟨_, reserves⟩ := standing.reserves external
    exact ⟨c.provider, named r stored reserves.platform, resolves.outside there outside⟩

theorem under_payment (endures : t.Endures (Transaction.Under providers)) (orderly : t.Orderly g)
    (distinct : g'.Distinct) (later : g.Before g')
    (within : ∀ platform name, names platform name → providers.Names platform name)
    (payment : Payment names key g t g' t') : t'.Endures (Transaction.Under providers) := by
  cases payment with
  | deferred id moment => exact endures.touched (fun _ _ _ under => under) id moment
  | reserved created named =>
    refine endures.created orderly distinct later created ?_
    intro external l mem outside
    obtain ⟨leg, there, rfl⟩ := List.mem_map.mp mem
    exact ⟨_, within _ _ named, reservationLegs_outside there outside⟩
  | settled c settles named =>
    exact under_settled endures orderly settles fun r stored _ => within _ _ (named r stored)

theorem under_own (endures : t.Endures (Transaction.Under providers)) (orderly : t.Orderly g)
    (distinct : g'.Distinct) (later : g.Before g') (created : Created g t g' r legs t')
    (own : r.kind.isExternal = false) : t'.Endures (Transaction.Under providers) := by
  refine endures.created orderly distinct later created ?_
  intro external
  cases own.symm.trans external

end Tables

namespace World

-- Nobody goes by a provider that the registry does not name for the platform of the payment.
structure Fixed (providers : Registry) (events : List Event) : Prop where
  goes : ∀ operation ∈ begun events, ∀ platform name, operation.GoesBy platform name →
    providers.Names platform name
  settles : ∀ c, .settle c ∈ begun events →
    ∀ r, (run events).server.tables.transaction? c.id = some r → r.platform.isExternal = true →
      providers.Names r.platform c.provider

theorem Fixed.early {providers : Registry} {early late : List Event} {operation : Operation}
    (fixed : Fixed providers (early ++ late)) (distinct : (run (early ++ late)).server.gauge.Distinct)
    (mem : operation ∈ begun early) :
    (∀ platform name, operation.GoesBy platform name → providers.Names platform name) ∧
      ∀ c, operation = .settle c → ∀ r, (run early).server.tables.transaction? c.id = some r →
        r.platform.isExternal = true → providers.Names r.platform c.provider := by
  have begun : operation ∈ begun (early ++ late) := by
    rw [begun, List.filterMap_append]
    exact List.mem_append_left _ mem
  refine ⟨fixed.goes operation begun, ?_⟩
  intro c same r stored external
  subst same
  have settles := fixed.settles c begun
  have ordered := run_ordered early (distinct_early distinct)
  rw [run_append] at distinct settles
  obtain ⟨r', there, platform⟩ := (ordered.retained late distinct).records c.id r stored
  rw [← platform]
  exact settles r' there (platform ▸ external)

theorem run_under (providers : Registry) (events : List Event)
    (distinct : (run events).server.gauge.Distinct) (fixed : Fixed providers events) :
    (run events).server.tables.Endures (Transaction.Under providers) := by
  apply run_kept events distinct .empty
  intro early late operation g' t' split mem orderly next later endures effect
  subst split
  obtain ⟨goes, settles⟩ := fixed.early distinct mem
  cases effect.booking with
  | nothing transactions entries => exact endures.of_same transactions entries
  | own creates =>
    obtain ⟨r, legs, created, own, _⟩ := creates
    exact Tables.under_own endures orderly next later created own
  | payment payment =>
    exact Tables.under_payment endures orderly next later goes payment
  | settled c called settled =>
    exact Tables.under_settled endures orderly settled (settles c called)
  | reward before shape created after =>
    have own : TransactionKind.isExternal .referralPayout = false := rfl
    have noted := Tables.under_own (endures.of_same before.transactions before.entries)
      (orderly.same_books before) next later created (by rw [shape]; exact own)
    exact noted.of_same after.transactions after.entries

end World
end Treasury
