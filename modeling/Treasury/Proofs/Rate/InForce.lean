import Treasury.Proofs.Decimal.Value
import Treasury.Proofs.Ledger.Balance
import Treasury.Proofs.Service.Ensures
import Treasury.Proofs.Service.Units
import Treasury.Proofs.Time.Instant

namespace Treasury

-- The greatest moment, and the last of those that share it.
def Latest (records : List Rate) (r : Rate) : Prop :=
  ∃ before after, records = before ++ r :: after ∧
    (∀ o ∈ before, o.effectiveAt ≤ r.effectiveAt) ∧ ∀ o ∈ after, o.effectiveAt < r.effectiveAt

def inEffect (records : List Rate) (base quote : Currency) (moment : Instant) : List Rate :=
  records.filter fun r => r.base = base ∧ r.quote = quote ∧ r.effectiveAt ≤ moment

theorem inEffect_append (records more : List Rate) :
    inEffect (records ++ more) base quote moment =
      inEffect records base quote moment ++ inEffect more base quote moment := List.filter_append ..

namespace Latest

variable {records others : List Rate} {r x : Rate}

theorem mem (latest : Latest records r) : r ∈ records := by
  obtain ⟨before, after, rfl, _⟩ := latest
  simp

theorem greatest (latest : Latest records r) : ∀ o ∈ records, o.effectiveAt ≤ r.effectiveAt := by
  obtain ⟨before, after, rfl, earlier, later⟩ := latest
  intro o mem
  rcases List.mem_append.mp mem with mem | mem
  · exact earlier o mem
  · rcases List.mem_cons.mp mem with rfl | mem
    · exact le_refl _
    · exact le_of_lt (later o mem)

-- One more record takes over unless it is earlier.
theorem concat : Latest (records ++ [x]) r ↔
    (r = x ∧ ∀ o ∈ records, o.effectiveAt ≤ x.effectiveAt) ∨
      Latest records r ∧ x.effectiveAt < r.effectiveAt := by
  constructor
  · rintro ⟨before, after, same, earlier, later⟩
    rcases List.eq_nil_or_concat after with rfl | ⟨kept, last, rfl⟩
    · obtain ⟨rfl, one⟩ := List.append_inj' same rfl
      cases one
      exact .inl ⟨rfl, earlier⟩
    · rw [List.concat_eq_append, ← List.cons_append, ← List.append_assoc] at same
      obtain ⟨rfl, one⟩ := List.append_inj' same rfl
      cases one
      refine .inr ⟨⟨before, kept, rfl, earlier, fun o mem => later o ?_⟩, later x ?_⟩ <;> simp [mem]
  · rintro (⟨rfl, earlier⟩ | ⟨⟨before, after, rfl, earlier, later⟩, under⟩)
    · exact ⟨records, [], rfl, earlier, by simp⟩
    · refine ⟨before, after ++ [x], by simp, earlier, fun o mem => ?_⟩
      rcases List.mem_append.mp mem with mem | mem
      · exact later o mem
      · exact List.mem_singleton.mp mem ▸ under

end Latest

namespace Tables

variable {records others : List Rate} {r : Rate}

theorem foldl_laterRate_none : records.foldl laterRate none = none ↔ records = [] := by
  rcases List.eq_nil_or_concat records with rfl | ⟨rest, x, rfl⟩
  · simp
  · rw [List.concat_eq_append, List.foldl_concat]
    unfold laterRate
    split
    · simp
    · split <;> simp

theorem foldl_laterRate : records.foldl laterRate none = some r ↔ Latest records r := by
  induction records using List.reverseRecOn generalizing r with
  | nil => simp [Latest]
  | append_singleton records x ih =>
    rw [List.foldl_concat, Latest.concat]
    cases passed : records.foldl laterRate none with
    | none =>
      obtain rfl := foldl_laterRate_none.mp passed
      simp [laterRate, Latest, eq_comm]
    | some best =>
      have latest := ih.mp passed
      have same (latest : Latest records r) : best = r := by
        rw [← ih, passed] at latest
        exact Option.some.inj latest
      rw [laterRate]
      split
      · rename_i under
        rw [Option.some_inj]
        constructor
        · rintro rfl
          exact .inr ⟨latest, under⟩
        · rintro (⟨rfl, above⟩ | ⟨latest', _⟩)
          · exact absurd (above best latest.mem) (not_le_of_gt under)
          · exact same latest'
      · rename_i reached
        rw [Option.some_inj]
        constructor
        · rintro rfl
          exact .inl ⟨rfl, fun o mem => le_trans (latest.greatest o mem) (le_of_not_gt reached)⟩
        · rintro (⟨rfl, _⟩ | ⟨latest', under⟩)
          · rfl
          · exact absurd (same latest' ▸ under) reached

end Tables

theorem Latest.iff_greatest {records : List Rate} {r : Rate} (apart : (records.map Rate.effectiveAt).Nodup) :
    Latest records r ↔ r ∈ records ∧ ∀ o ∈ records, o.effectiveAt ≤ r.effectiveAt := by
  refine ⟨fun latest => ⟨latest.mem, latest.greatest⟩, ?_⟩
  rintro ⟨mem, greatest⟩
  obtain ⟨before, after, rfl⟩ := List.append_of_mem mem
  refine ⟨before, after, rfl, fun o mem => greatest o (by simp [mem]), fun o mem => ?_⟩
  refine lt_of_le_of_ne (greatest o (by simp [mem])) fun same => ?_
  rw [List.map_append, List.map_cons, List.nodup_append] at apart
  have fresh := (List.nodup_cons.mp apart.2.1).1
  exact fresh (List.mem_map.mpr ⟨o, mem, same⟩)

theorem Latest.perm {records others : List Rate} {r : Rate} (same : others.Perm records)
    (apart : (records.map Rate.effectiveAt).Nodup) : Latest others r ↔ Latest records r := by
  have apart' := ((same.map Rate.effectiveAt).nodup_iff).mpr apart
  rw [iff_greatest apart, iff_greatest apart']
  simp only [same.mem_iff]

namespace Rates

variable {s : Server} {answer : {β : Type} → Question β → β}

theorem record_calm (answer : {β : Type} → Question β → β) (calm : s.Calm) (r : Rate) :
    ((record r).run.runAlone answer s).2.Calm ∧
      ((record r).run.runAlone answer s).2.tables.rates =
        s.tables.rates ++ [r].filter fun r => 0 < r.rate := by
  by_cases low : r.rate ≤ 0
  · unfold record
    rw [if_pos low]
    have nothing : ([r].filter fun r => 0 < r.rate) = [] := by simpa [← Decimal.not_le_iff] using low
    rw [nothing, List.append_nil]
    exact ⟨calm, rfl⟩
  · have alone : (record r).Alone s (fun _ _ _ => False) fun _ s' _ =>
        s'.Calm ∧ s'.tables = s.tables.withRate r := by
      refine .acts (record_acts low) calm.honest (fun s' x p onward recorded tables => ?_)
        fun s' h _ never => (never calm).elim
      obtain ⟨_, rfl⟩ := recorded
      exact ⟨onward.calm calm, tables⟩
    obtain ⟨_, _, after, tables⟩ := alone.succeeds answer
    refine ⟨after, ?_⟩
    rw [tables]
    simp [Tables.withRate, Decimal.not_le_iff.mp low]

theorem get_calm (calm : s.Calm) (apart : base ≠ quote) :
    ((get base quote).run.runAlone answer s).1 =
      (s.tables.rate? base quote s.clock).elim (.error (.refused (.noRateAvailable base quote)))
        fun r => .ok r.rate := by
  have alone : (get base quote).Alone s
      (fun h _ _ => h = .refused (.noRateAvailable base quote) ∧ s.tables.rate? base quote s.clock = none)
      fun x _ _ => ∃ r, s.tables.rate? base quote s.clock = some r ∧ x = r.rate := by
    refine .acts (get_acts apart) calm.honest (fun s' x p _ found _ => found.1) ?_
    exact fun s' h _ missing => missing calm
  have ended := Flow.Ensures.alone alone answer
  rcases result : ((get base quote).run.runAlone answer s).1 with h | x <;> rw [result] at ended
  · rw [ended.2, ended.1]
    rfl
  · obtain ⟨r, known, rfl⟩ := ended
    rw [known]
    rfl

def recordAll (answer : {β : Type} → Question β → β) (history : List (Instant × Rate)) (s : Server) :
    Server :=
  history.foldl (fun s call => ((record call.2).run.runAlone answer { s with clock := call.1 }).2) s

def accepted (history : List (Instant × Rate)) : List Rate :=
  (history.map (·.2)).filter fun r => 0 < r.rate

theorem accepted_append (history more : List (Instant × Rate)) :
    accepted (history ++ more) = accepted history ++ accepted more := by
  rw [accepted, List.map_append, List.filter_append]
  rfl

theorem recordAll_calm (answer : {β : Type} → Question β → β) (calm : s.Calm) (history : List (Instant × Rate)) :
    (recordAll answer history s).Calm ∧
      (recordAll answer history s).tables.rates = s.tables.rates ++ accepted history := by
  induction history generalizing s with
  | nil => exact ⟨calm, (List.append_nil _).symm⟩
  | cons call rest ih =>
    have here : Server.Calm { s with clock := call.1 } := ⟨calm.1, calm.2, calm.3⟩
    obtain ⟨after, recorded⟩ := record_calm answer here call.2
    obtain ⟨still, all⟩ := ih after
    refine ⟨still, all.trans ?_⟩
    rw [recorded, List.append_assoc]
    exact congrArg _ (accepted_append [call] rest).symm

-- What a lookup at some moment answers after these calls.
def asked (answer : {β : Type} → Question β → β) (s : Server) (base quote : Currency) (moment : Instant)
    (history : List (Instant × Rate)) : Except (Halt RateError) Decimal :=
  ((get base quote).run.runAlone answer { recordAll answer history s with clock := moment }).1

theorem asked_same (history : List (Instant × Rate)) (currency : Currency) (moment : Instant) :
    asked answer s currency currency moment history = .ok 1 := by
  unfold asked get
  rw [if_pos rfl]
  rfl

variable {base quote : Currency} {moment : Instant} {history others : List (Instant × Rate)}

theorem asked_apart (calm : s.Calm) (fresh : s.tables.rates = []) (apart : base ≠ quote) :
    asked answer s base quote moment history =
      ((inEffect (accepted history) base quote moment).foldl Tables.laterRate none).elim
        (.error (.refused (.noRateAvailable base quote))) fun r => .ok r.rate := by
  obtain ⟨after, recorded⟩ := recordAll_calm answer calm history
  rw [fresh, List.nil_append] at recorded
  have here : Server.Calm { recordAll answer history s with clock := moment } :=
    ⟨after.1, after.2, after.3⟩
  rw [asked, get_calm here apart, ← recorded]
  rfl

theorem asked_congr (calm : s.Calm) (fresh : s.tables.rates = [])
    (same : (inEffect (accepted others) base quote moment).foldl Tables.laterRate none =
      (inEffect (accepted history) base quote moment).foldl Tables.laterRate none) :
    asked answer s base quote moment others = asked answer s base quote moment history := by
  by_cases home : base = quote
  · subst home
    rw [asked_same, asked_same]
  · rw [asked_apart calm fresh home, asked_apart calm fresh home, same]

theorem asked_without (calm : s.Calm) (fresh : s.tables.rates = []) {call : Instant × Rate}
    (out : ¬ (call.2.base = base ∧ call.2.quote = quote ∧ call.2.effectiveAt ≤ moment))
    (earlier later : List (Instant × Rate)) :
    asked answer s base quote moment (earlier ++ later) =
      asked answer s base quote moment (earlier ++ call :: later) := by
  have unseen : inEffect (accepted [call]) base quote moment = [] := by
    rw [inEffect, List.filter_eq_nil_iff]
    intro r mem
    obtain rfl : r = call.2 := by simpa using List.mem_of_mem_filter mem
    simpa using out
  have split : earlier ++ call :: later = earlier ++ [call] ++ later := by simp
  apply asked_congr calm fresh
  rw [split, accepted_append, accepted_append, accepted_append, inEffect_append, inEffect_append,
    inEffect_append, unseen, List.append_nil]

theorem asked_perm (calm : s.Calm) (fresh : s.tables.rates = [])
    (same : (others.map (·.2)).Perm (history.map (·.2)))
    (distinct : (((accepted history).filter fun r => r.base = base ∧ r.quote = quote).map
      Rate.effectiveAt).Nodup) :
    asked answer s base quote moment others = asked answer s base quote moment history := by
  have fewer : (inEffect (accepted history) base quote moment).Sublist
      ((accepted history).filter fun r => r.base = base ∧ r.quote = quote) := by
    apply List.monotone_filter_right
    intro r there
    simp only [decide_eq_true_eq] at there ⊢
    exact ⟨there.1, there.2.1⟩
  have apart := distinct.sublist (fewer.map Rate.effectiveAt)
  have perm : (inEffect (accepted others) base quote moment).Perm
      (inEffect (accepted history) base quote moment) := (same.filter _).filter _
  apply asked_congr calm fresh
  apply Option.ext
  intro r
  rw [Tables.foldl_laterRate, Tables.foldl_laterRate, Latest.perm perm apart]

-- A lookup answers with the record in force and is refused only where none is in effect. Records of
-- other pairs, or of a later moment, make no difference to it, and nor does the order in which
-- records of different moments were made.
theorem get_in_force (answer : {β : Type} → Question β → β) (s : Server) (calm : s.Calm)
    (fresh : s.tables.rates = []) (history : List (Instant × Rate)) (base quote : Currency)
    (moment : Instant) :
    let asked := asked answer s base quote moment
    (base = quote → asked history = .ok 1) ∧
    (base ≠ quote →
      (∀ x, asked history = .ok x ↔
        ∃ r, Latest (inEffect (accepted history) base quote moment) r ∧ x = r.rate) ∧
      (∀ h, asked history = .error h ↔
        h = .refused (.noRateAvailable base quote) ∧
          inEffect (accepted history) base quote moment = [])) ∧
    (∀ x, asked history = .ok x → 0 < x) ∧
    (∀ earlier call later, history = earlier ++ call :: later →
      ¬ (call.2.base = base ∧ call.2.quote = quote ∧ call.2.effectiveAt ≤ moment) →
      asked (earlier ++ later) = asked history) ∧
    (∀ others : List (Instant × Rate), (others.map (·.2)).Perm (history.map (·.2)) →
      (((accepted history).filter fun r => r.base = base ∧ r.quote = quote).map
        Rate.effectiveAt).Nodup →
      asked others = asked history) := by
  intro ask
  have answered (apart : base ≠ quote) (x : Decimal) : ask history = .ok x ↔
      ∃ r, Latest (inEffect (accepted history) base quote moment) r ∧ x = r.rate := by
    simp only [ask, asked_apart calm fresh apart, ← Tables.foldl_laterRate]
    cases (inEffect (accepted history) base quote moment).foldl Tables.laterRate none with
    | none => simp
    | some r => simp [eq_comm]
  refine ⟨?_, fun apart => ⟨answered apart, fun h => ?_⟩, fun x got => ?_, ?_, ?_⟩
  · rintro rfl
    exact asked_same history base moment
  · simp only [ask, asked_apart calm fresh apart, ← Tables.foldl_laterRate_none]
    cases (inEffect (accepted history) base quote moment).foldl Tables.laterRate none with
    | none => simp [eq_comm]
    | some r => simp
  · by_cases home : base = quote
    · subst home
      have one : ask history = .ok 1 := asked_same history base moment
      rw [one] at got
      cases got
      decide
    · obtain ⟨r, latest, rfl⟩ := (answered home x).mp got
      have recorded := List.mem_of_mem_filter latest.mem
      simpa [accepted] using (List.mem_filter.mp recorded).2
  · rintro earlier call later rfl out
    exact asked_without calm fresh out earlier later
  · exact fun others same distinct => asked_perm calm fresh same distinct

def tiedHistory : List (Instant × Rate) :=
  [(⟨5, 0⟩, ⟨.usd, .ngn, Decimal.ofUInt32 3, ⟨9, 0⟩⟩), (⟨6, 0⟩, ⟨.usd, .ngn, 1, ⟨4, 0⟩⟩),
    (⟨7, 0⟩, ⟨.usd, .ngn, Decimal.ofUInt32 2, ⟨4, 0⟩⟩)]

theorem get_in_force_tied :
    Server.start.Calm ∧ Server.start.tables.rates = [] ∧
      asked World.silence .start .usd .ngn ⟨8, 0⟩ tiedHistory =
        .ok (Decimal.ofUInt32 2) := by
  have calm : Server.start.Calm := ⟨rfl, rfl, rfl⟩
  obtain ⟨_, apart, _⟩ := get_in_force World.silence .start
    calm rfl tiedHistory .usd .ngn ⟨8, 0⟩
  have latest : Latest (inEffect (accepted tiedHistory) .usd .ngn ⟨8, 0⟩)
      ⟨.usd, .ngn, Decimal.ofUInt32 2, ⟨4, 0⟩⟩ :=
    ⟨[⟨.usd, .ngn, 1, ⟨4, 0⟩⟩], [], by decide +kernel, by decide, by decide⟩
  exact ⟨calm, rfl, ((apart (by decide)).1 _).mpr ⟨_, latest, rfl⟩⟩

end Rates
end Treasury
