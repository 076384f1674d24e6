import Treasury.Proofs.Settlement.Once

namespace Treasury

-- No two numbers given out so far lead to one identifier of the kind.
def Gauge.Apart (pick : Supply → α) (g : Gauge) : Prop :=
  ∀ m n, m < g.supply.issued → n < g.supply.issued → pick ⟨m⟩ = pick ⟨n⟩ → m = n

theorem Gauge.Apart.before {pick : Supply → α} {g g' : Gauge} (apart : g'.Apart pick)
    (before : g.Before g') : g.Apart pick :=
  fun m n low high => apart m n (Nat.lt_of_lt_of_le low before) (Nat.lt_of_lt_of_le high before)

theorem Gauge.apart_withdrawal {g : Gauge} (few : g.supply.issued ≤ 2 ^ 62) :
    g.Apart Supply.withdrawal := by
  intro m n low high same
  have bits := congrArg (fun id : WithdrawalId => id.uuid.bits) same
  simp only [Supply.withdrawal, Supply.marked, Supply.withdrawalMark, Uuid.numbered, Nat.pow_eq] at bits
  omega

-- What a step does to the withdrawal requests. The books may change with a decision.
inductive RequestStep (g : Gauge) (t : Tables) (g' : Gauge) : Tables → Prop where
  | same (rows : t'.withdrawals = t.withdrawals) : RequestStep g t g' t'
  | opened (w : Withdrawal) (issued : Gauge.Gives Supply.withdrawal g g' w.id)
      (positive : ¬ w.amount ≤ 0) (waits : w.status = .pending) (unpaid : w.transactionId = none)
      (rows : t'.withdrawals = Rows.put Withdrawal.id w t.withdrawals) : RequestStep g t g' t'
  | decided (stored : t.withdrawal? number = some w) (moves : w.status.canBecome status = true)
      (before : t.SameBooks t₀) (carries : CarriesOut g t₀ g' w e status e' payout t₁)
      (after : t₁.SameBooks t')
      (rows : t'.withdrawals = (t.withDecided number status payout moment).withdrawals) :
      RequestStep g t g' t'

theorem CarriesOut.frame (carries : CarriesOut g t g' w e status e' payout t') :
    t' = { t with
      wallets := t'.wallets, entries := t'.entries, transactions := t'.transactions } := by
  cases carries with
  | completed _ _ created => rw [created.frame]
  | _ => rfl

theorem CarriesOut.rows {t : Tables} (number : WithdrawalId) (e'' : Earnings) (decided : Instant)
    (carries : CarriesOut g (t.withLocked user moment) g' w e status e' payout t₁) :
    ((t₁.withEarnings e'').withDecided number status payout decided).withdrawals =
      (t.withDecided number status payout decided).withdrawals := by
  have same : t₁.withdrawals = t.withdrawals := by
    rw [carries.frame, t.withLocked_frame]
  exact congrArg (Rows.amend _ _ _) same

theorem Step.requests (step : Step g t g' t') : RequestStep g t g' t' := by
  cases step with
  | settle c settles =>
    cases settles with
    | touched => exact .same rfl
    | decided _ _ _ _ books =>
      refine .same ?_
      rw [Tables.withChanged, books.frame]
  | change change =>
    cases change with
    | created created =>
      refine .same ?_
      rw [created.frame]
    | referred r =>
      refine .same ?_
      rw [Tables.withLocked_frame]
      rfl
    | @requested number _ _ _ w _ _ now _ user amount issued positive =>
      refine .opened ⟨number, user, amount, w.id, .pending, none, now, now⟩ issued positive rfl rfl ?_
      rw [Tables.withLocked_frame]
      rfl
    | decided stored moves _ carries =>
      exact .decided stored moves (.withLocked _ _) carries ⟨rfl, rfl, rfl⟩ (carries.rows _ _ _)
    | _ => exact .same rfl

theorem WithdrawalStatus.canBecome_final {old new : WithdrawalStatus} (final : old.isFinal = true) :
    old.canBecome new = false := by
  cases old <;> first | rfl | cases final

namespace Tables

variable {g g' : Gauge} {t t' : Tables}

structure Filed (g : Gauge) (t : Tables) : Prop where
  single : (t.withdrawals.map Withdrawal.id).Nodup
  issued : ∀ w ∈ t.withdrawals, ∃ n, n < g.supply.issued ∧ w.id = Supply.withdrawal ⟨n⟩
  positive : ∀ w ∈ t.withdrawals, ¬ w.amount ≤ 0

namespace Filed

theorem empty (g : Gauge) : Tables.empty.Filed g := ⟨.nil, by rintro _ ⟨⟩, by rintro _ ⟨⟩⟩

theorem found (filed : t.Filed g) (mem : w ∈ t.withdrawals) : t.withdrawal? w.id = some w :=
  Rows.find?_of_mem filed.single mem

theorem fresh {id : WithdrawalId} (filed : t.Filed g) (apart : g'.Apart Supply.withdrawal)
    (later : g.Before g') (given : Gauge.Gives Supply.withdrawal g g' id) :
    t.withdrawal? id = none := by
  refine Rows.find?_none.mpr fun mem => ?_
  obtain ⟨w, there, rfl⟩ := List.mem_map.mp mem
  obtain ⟨m, low, old⟩ := filed.issued w there
  obtain ⟨n, above, below, new⟩ := given
  have same := apart m n (Nat.lt_of_lt_of_le low later) below (old.symm.trans new)
  omega

theorem step (filed : t.Filed g) (apart : g'.Apart Supply.withdrawal) (later : g.Before g')
    (step : Step g t g' t') : t'.Filed g' := by
  have issued : ∀ w ∈ t.withdrawals, ∃ n, n < g'.supply.issued ∧ w.id = Supply.withdrawal ⟨n⟩ := by
    intro w mem
    obtain ⟨n, low, same⟩ := filed.issued w mem
    exact ⟨n, Nat.lt_of_lt_of_le low later, same⟩
  cases step.requests with
  | same rows => exact ⟨rows ▸ filed.single, rows ▸ issued, rows ▸ filed.positive⟩
  | opened w given positive _ _ rows =>
    have free := filed.fresh apart later given
    rw [Rows.put_new free] at rows
    refine ⟨rows ▸ Rows.nodup_append_new filed.single free, fun x mem => ?_, fun x mem => ?_⟩
    · rw [rows] at mem
      rcases List.mem_append.mp mem with old | new
      · exact issued x old
      · rw [List.mem_singleton] at new
        obtain ⟨n, _, low, same⟩ := given
        exact ⟨n, low, new ▸ same⟩
    · rw [rows] at mem
      rcases List.mem_append.mp mem with old | new
      · exact filed.positive x old
      · rw [List.mem_singleton] at new
        exact new ▸ positive
  | decided _ _ _ _ _ rows =>
    refine ⟨?_, fun x mem => ?_, fun x mem => ?_⟩
    · have keys : t'.withdrawals.map Withdrawal.id = t.withdrawals.map Withdrawal.id := by
        rw [rows]
        exact Rows.map_amend fun _ _ => rfl
      rw [keys]
      exact filed.single
    · rw [rows] at mem
      rcases Rows.mem_amend.mp mem with ⟨old, _⟩ | ⟨old, there, _, rfl⟩
      · exact issued x old
      · exact issued old there
    · rw [rows] at mem
      rcases Rows.mem_amend.mp mem with ⟨old, _⟩ | ⟨old, there, _, rfl⟩
      · exact filed.positive x old
      · exact filed.positive old there

theorem decided (filed : t.Filed g) (stored : t.withdrawal? number = some w)
    (mem : x ∈ (t.withDecided number status payout moment).withdrawals) :
    x ∈ t.withdrawals ∨
      x = { w with status, transactionId := payout.or w.transactionId, updatedAt := moment } := by
  rcases Rows.mem_amend.mp mem with ⟨old, _⟩ | ⟨old, there, same, rfl⟩
  · exact .inl old
  · have found := filed.found there
    rw [same, stored] at found
    cases found
    exact .inr rfl

-- Nobody changes a request that is over.
theorem kept (filed : t.Filed g) (apart : g'.Apart Supply.withdrawal) (later : g.Before g')
    (step : Step g t g' t') (mem : w ∈ t.withdrawals) (final : w.status.isFinal = true) :
    w ∈ t'.withdrawals := by
  cases step.requests with
  | same rows => exact rows ▸ mem
  | opened new given _ _ _ rows =>
    rw [rows, Rows.put_new (filed.fresh apart later given)]
    exact List.mem_append_left _ mem
  | decided stored moves _ _ _ rows =>
    rw [rows]
    refine Rows.mem_amend.mpr (.inl ⟨mem, fun same => ?_⟩)
    have found := filed.found mem
    rw [same, stored] at found
    cases found
    rw [WithdrawalStatus.canBecome_final final] at moves
    cases moves

end Filed
end Tables

namespace World

variable {w : World}

theorem Sound.filed (sound : w.Sound) (filed : w.server.tables.Filed w.server.gauge)
    (events : List Event) (apart : (w.after events).server.gauge.Apart Supply.withdrawal) :
    (w.after events).server.tables.Filed (w.after events).server.gauge := by
  have always := sound.induct (I := fun g t => g.Apart Supply.withdrawal → t.Filed g)
    (fun _ _ _ _ later step before apart => (before (apart.before later)).step apart later step)
    (fun _ => filed) events
  exact always apart

theorem run_filed (events : List Event)
    (apart : (run events).server.gauge.Apart Supply.withdrawal) :
    (run events).server.tables.Filed (run events).server.gauge :=
  Sound.start.filed (.empty _) events apart

theorem Sound.keeps (sound : w.Sound) (filed : w.server.tables.Filed w.server.gauge)
    (events : List Event) (apart : (w.after events).server.gauge.Apart Supply.withdrawal)
    (mem : request ∈ w.server.tables.withdrawals) (final : request.status.isFinal = true) :
    request ∈ (w.after events).server.tables.withdrawals := by
  induction events generalizing w with
  | nil => exact mem
  | cons e rest ih =>
    obtain ⟨later, step⟩ := sound.step e
    have next := apart.before ((sound.take e).1.issued rest)
    exact ih (sound.take e).1 (filed.step next later step) apart (filed.kept next later step mem final)

end World
end Treasury
