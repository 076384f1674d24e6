import Treasury.Proofs.Request.Single
import Treasury.Proofs.Reward.Requests
import Treasury.Proofs.Service.Conduct
import Treasury.Proofs.Settlement.Bookings
import Treasury.Proofs.World.Orders

namespace Treasury

-- The providers that an operation goes by. A settlement is told the name of its provider.
def Operation.GoesBy : Operation → Platform → String → Prop
  | .purchaseGiftCard gateway _ | .payOut gateway _ | .sendCrypto gateway _ => gateway.providers.Names
  | .reconcile _ providers _ => providers.Names
  | _ => fun _ _ => False

-- What the effect of an operation is on the transactions and what they booked.
inductive Operation.Booking (operation : Operation) (g : Gauge) (t : Tables) (g' : Gauge) (t' : Tables) :
    Prop where
  | nothing (transactions : t'.transactions = t.transactions) (entries : t'.entries = t.entries)
  | own (creates : CreatesOwn operation.key? g t g' t')
  | payment (payment : Payment operation.GoesBy operation.key? g t g' t')
  | settled (c : SettleCall) (called : operation = .settle c) (settles : Settles c t answer (some t'))
  | reward (before : t.SameBooks t₁)
      (shape : r = { (Rewards.payoutDraft w held).toTransaction r.id now with status := .succeeded })
      (created : Created g t₁ g' r (payoutLegs held w.amount) t₂) (after : t₂.SameBooks t')

theorem Operation.Effect.booking {operation : Operation} (effect : operation.Effect g t g' t') :
    operation.Booking g t g' t' := by
  cases operation with
  | openWallet =>
    obtain ⟨w, _, rfl⟩ := effect
    exact .nothing rfl rfl
  | requestWallet =>
    obtain ⟨w, _, rfl⟩ := effect
    exact .nothing rfl rfl
  | setWalletStatus =>
    obtain ⟨moment, rfl⟩ := effect
    exact .nothing rfl rfl
  | recordRate =>
    cases effect
    exact .nothing rfl rfl
  | deposit => exact .own effect
  | transfer => exact .own effect
  | purchaseGiftCard => exact .payment effect
  | payOut => exact .payment effect
  | sendCrypto => exact .payment effect
  | reconcile => exact .payment effect
  | settle c =>
    obtain ⟨answer, settles⟩ := effect
    exact .settled c rfl settles
  | defer id =>
    obtain ⟨moment, rfl⟩ := effect
    exact .payment (.deferred id moment)
  | trackReferral =>
    obtain ⟨r, tracks⟩ := effect
    cases tracks with
    | tracked =>
      rw [Tables.withLocked_frame]
      exact .nothing rfl rfl
  | requestWithdrawal =>
    obtain ⟨w, requests⟩ := effect
    cases requests with
    | requested =>
      rw [Tables.withLocked_frame]
      exact .nothing rfl rfl
  | updateWithdrawal =>
    obtain ⟨w, decides⟩ := effect
    cases decides with
    | @decided w _ moment _ _ _ _ _ _ _ _ stored moves locked carries =>
      have locks := Tables.SameBooks.withLocked (t := t) w.userId moment
      cases carries with
      | completed held shape created => exact .reward locks shape created ⟨rfl, rfl, rfl⟩
      | _ => exact .nothing locks.transactions locks.entries
  | sweepCatalog =>
    obtain ⟨item, moment, rfl⟩ := effect
    exact .nothing rfl rfl
  | _ => cases effect

namespace World

variable {w : World} {e : Event} {id : TransactionId} {r : Transaction}

theorem Turn.platform (turn : Turn id r w e) (stored : w.server.tables.transaction? id = some r) :
    ∃ r', (w.take e).server.tables.transaction? id = some r' ∧ r'.platform = r.platform := by
  cases turn with
  | rests rests =>
    obtain ⟨r', there, same⟩ := rests.after stored
    have platform := congrArg Transaction.platform same
    exact ⟨r', there, platform⟩
  | @moved _ noted _ moment c _ mine current moves _ books shape =>
    subst mine
    refine ⟨r.Decided c noted moment, ?_, (Transaction.Decided.kin r c noted moment).platform⟩
    rw [shape]
    exact Tables.decided_record stored books

theorem Ordered.retains (ordered : w.Ordered) (distinct : (w.take e).server.gauge.Distinct) :
    w.server.Retains (w.take e).server := by
  have next := ordered.take distinct
  refine ⟨next.sound.honest, next.orderly.single, ?_⟩
  intro id r stored
  exact (ordered.turn distinct stored).platform stored

theorem Ordered.retained (ordered : w.Ordered) (events : List Event)
    (distinct : (w.after events).server.gauge.Distinct) :
    w.server.Retains (w.after events).server := by
  induction events generalizing w with
  | nil => exact .refl ordered.sound.honest ordered.orderly.single
  | cons e rest ih =>
    have next := distinct.before ((ordered.sound.take e).1.issued rest)
    exact (ordered.retains next).trans (ih (ordered.take next) distinct)

-- Every activity goes on abiding by the effects of its operation.
theorem run_abides {i : Nat} {operation : Operation} (events : List Event)
    (distinct : (run events).server.gauge.Distinct) (there : (begun events)[i]? = some operation) :
    ∃ a, (run events).activities[i]? = some a ∧
      a.flow.Abides (fun g t g' t' => operation.Effect g t g' t') (run events).server
        fun _ _ => True := by
  have abides := follow i operation (I := fun events a => (run events).server.gauge.Distinct →
    a.flow.Abides (fun g t g' t' => operation.Effect g t g' t') (run events).server fun _ _ => True)
    ?_ ?_ events there
  · obtain ⟨a, running, abides⟩ := abides
    exact ⟨a, running, abides distinct⟩
  · intro events _ _
    exact operation.abides _
  · intro events e a a' _ turned kept distinct
    have before := distinct_early distinct
    have ordered := run_ordered events before
    rw [run_snoc] at distinct ⊢
    have retains := ordered.retains distinct
    have abides := kept before
    have still := Server.Retains.refl ordered.sound.honest ordered.orderly.single
    cases turned with
    | waits => exact abides.later retains
    | acts mine taken =>
      rw [taken] at retains ⊢
      exact (abides _ still).2 retains
    | hears answer taken =>
      rw [taken]
      exact abides _ answer still

theorem run_effect (events : List Event) (e : Event)
    (distinct : (run (events ++ [e])).server.gauge.Distinct) :
    (run (events ++ [e])).server.tables = (run events).server.tables ∨
      ∃ i operation, e = .advance i ∧ (begun events)[i]? = some operation ∧
        operation.Effect (run events).server.gauge (run events).server.tables
          (run (events ++ [e])).server.gauge (run (events ++ [e])).server.tables := by
  have before := distinct_early distinct
  rw [run_snoc]
  cases e with
  | advance i =>
    cases there : (begun events)[i]? with
    | none =>
      rw [List.getElem?_eq_none_iff, begun_length] at there
      rw [take_unbegun there rfl]
      exact .inl rfl
    | some operation =>
      obtain ⟨a, running, abides⟩ := run_abides events before there
      have ordered := run_ordered events before
      obtain ⟨a', _, turned⟩ := turns running (.advance i)
      cases turned with
      | waits _ still => exact .inl (by rw [still rfl])
      | acts mine taken =>
        rw [taken]
        obtain ⟨effect, _⟩ := abides _ (.refl ordered.sound.honest ordered.orderly.single)
        exact effect.imp_right fun effect => ⟨i, operation, rfl, there, effect⟩
      | hears answer taken =>
        rw [taken]
        exact .inl rfl
  | reply =>
    dsimp only [take]
    split <;> exact .inl rfl
  | page =>
    dsimp only [take]
    split <;> exact .inl rfl
  | _ => exact .inl rfl

-- What the effect of every operation keeps holds in every state.
theorem run_kept {I : Tables → Prop} (events : List Event)
    (distinct : (run events).server.gauge.Distinct) (start : I .empty)
    (kept : ∀ early late operation g' t', events = early ++ late → operation ∈ begun early →
      (run early).server.tables.Orderly (run early).server.gauge → g'.Distinct →
      (run early).server.gauge.Before g' → I (run early).server.tables →
      operation.Effect (run early).server.gauge (run early).server.tables g' t' → I t') :
    I (run events).server.tables := by
  have upTo : ∀ early late, events = early ++ late → I (run early).server.tables := by
    intro early
    induction early using List.reverseRecOn with
    | nil => exact fun _ _ => start
    | append_singleton early e ih =>
      intro late split
      have next : (run (early ++ [e])).server.gauge.Distinct := distinct_early (split ▸ distinct)
      rw [List.append_assoc] at split
      have before := ih _ split
      rcases run_effect early e next with same | ⟨i, operation, _, there, effect⟩
      · rw [same]
        exact before
      · have ordered := run_ordered early (distinct_early next)
        have later := ordered.sound.issued [e]
        rw [← run_append] at later
        exact kept early _ operation _ _ split (List.mem_of_getElem? there) ordered.orderly next later
          before effect
  exact upTo events [] (List.append_nil events).symm

end World
end Treasury
