import Mathlib.Data.Nat.Find
import Treasury.Schedule

namespace Treasury.Schedule

variable {interval stop : Nat} {took : Nat → Nat} {course : Course}

theorem nextDue_bounds (interval : Nat) {due start : Nat} (late : due ≤ start) :
    due + interval ≤ nextDue interval due start ∧ nextDue interval due start ≤ start + interval ∧
      start + interval ≤ nextDue interval due start + tolerance := by
  unfold nextDue tolerance
  split <;> omega

namespace Look

def nth (interval : Nat) (took : Nat → Nat) : Nat → Look
  | 0 => first
  | n + 1 => (nth interval took n).next interval (took n)

theorem number_nth (n : Nat) : (nth interval took n).number = n := by
  induction n with
  | zero => rfl
  | succ n ih => exact congrArg (· + 1) ih

theorem since_nth_succ (n : Nat) :
    (nth interval took (n + 1)).since = (nth interval took n).start + took n := rfl

theorem due_nth_succ (n : Nat) : (nth interval took (n + 1)).due =
    nextDue interval (nth interval took n).due (nth interval took n).start := rfl

theorem due_le_start (l : Look) : l.due ≤ l.start := Nat.le_max_left _ _

theorem since_le_start (l : Look) : l.since ≤ l.start := Nat.le_max_right _ _

theorem end_le_start_succ (n : Nat) :
    (nth interval took n).start + took n ≤ (nth interval took (n + 1)).start :=
  since_le_start (nth interval took (n + 1))

theorem start_succ_le (n : Nat) : (nth interval took (n + 1)).start ≤
    max ((nth interval took n).start + took n) ((nth interval took n).start + interval) := by
  have soon := (nextDue_bounds interval (nth interval took n).due_le_start).2.1
  rw [start, since_nth_succ, due_nth_succ]
  omega

theorem start_mono {m n : Nat} (earlier : m ≤ n) :
    (nth interval took m).start ≤ (nth interval took n).start := by
  induction earlier with
  | refl => exact Nat.le_refl _
  | step _ ih =>
    exact Nat.le_trans ih (Nat.le_trans (Nat.le_add_right _ _) (end_le_start_succ _))

-- What is put off stays put off: from one run on, every later one is due at its interval or after it.
theorem due_spaced (interval : Nat) (took : Nat → Nat) (n k : Nat) :
    (nth interval took n).due + k * interval ≤ (nth interval took (n + k)).due := by
  induction k with
  | zero => simp
  | succ k ih =>
    have later := (nextDue_bounds interval (nth interval took (n + k)).due_le_start).1
    rw [← Nat.add_assoc, due_nth_succ, Nat.succ_mul]
    omega

-- Only the first of these runs may have been late without the next one being put off.
theorem start_spaced (n k : Nat) :
    (nth interval took n).start + k * interval ≤ (nth interval took (n + k)).start + tolerance := by
  cases k with
  | zero => simp
  | succ k =>
    have first := (nextDue_bounds interval (nth interval took n).due_le_start).2.2
    have rest := due_spaced interval took (n + 1) k
    have begun := (nth interval took (n + 1 + k)).due_le_start
    rw [due_nth_succ] at rest
    rw [Nat.succ_mul, show n + (k + 1) = n + 1 + k by omega]
    omega

theorem le_start (positive : 0 < interval) (n : Nat) : n ≤ (nth interval took n).start := by
  have due := due_spaced interval took 0 n
  have begun := (nth interval took (0 + n)).due_le_start
  have grows : n * 1 ≤ n * interval := Nat.mul_le_mul_left n positive
  rw [Nat.zero_add] at due begun
  omega

theorem exists_count (positive : 0 < interval) (stop : Nat) (took : Nat → Nat) :
    ∃ count, ∀ n, n < count ↔ (nth interval took n).start < stop := by
  have late : ∃ n, stop ≤ (nth interval took n).start := ⟨stop, le_start positive stop⟩
  refine ⟨Nat.find late, fun n => ?_⟩
  constructor
  · intro before
    exact Nat.lt_of_not_le (Nat.find_min late before)
  · intro early
    by_contra beyond
    have reached := Nat.find_spec late
    have sorted : (nth interval took (Nat.find late)).start ≤ (nth interval took n).start :=
      start_mono (Nat.le_of_not_lt beyond)
    omega

theorem stops_of_lt {l : Look} (early : l.start < stop) (stopsFirst : Bool) :
    l.stops stop stopsFirst = false := by
  have noticed : stop ≤ l.notice stop := Nat.le_max_left _ _
  unfold stops
  rw [if_neg (by omega), decide_eq_false (by omega)]

theorem stops_iff {l : Look} (late : stop ≤ l.start) {stopsFirst : Bool} :
    l.stops stop stopsFirst = true ↔ (l.notice stop = l.start → stopsFirst = true) := by
  have before : l.notice stop ≤ l.start := Nat.max_le.mpr ⟨late, l.since_le_start⟩
  unfold stops
  split
  · rename_i same
    simp [same]
  · rename_i apart
    simp [apart, Nat.lt_of_le_of_ne before apart]

theorem goes_late {l : Look} {stopsFirst : Bool} (goes : l.stops stop stopsFirst = false)
    (late : stop ≤ l.start) : l.notice stop = l.start ∧ stopsFirst = false := by
  rwa [← Bool.not_eq_true, stops_iff late, Classical.not_imp, Bool.not_eq_true] at goes

theorem le_start_count (before : ∀ n, n < count ↔ (nth interval took n).start < stop) :
    stop ≤ (nth interval took count).start :=
  Nat.le_of_not_lt ((before count).not.mp (Nat.lt_irrefl count))

theorem stops_of_first (before : ∀ n, n < count ↔ (nth interval took n).start < stop)
    {stopsFirst : Bool} (first : stopsFirst = true) :
    (nth interval took count).stops stop stopsFirst = true :=
  (stops_iff (le_start_count before)).mpr fun _ => first

end Look

-- The shutdown meets no run: at the look that follows the runs before it, the instant at which it is
-- noticed, as it comes or as the run in progress ends, is not the one at which the next run begins.
-- So it comes neither as a run is due nor during one that outlasts its interval, for as such a run
-- ends the next one is there already.
def Apart (interval stop : Nat) (took : Nat → Nat) : Prop :=
  ∀ n, (∀ m < n, (Look.nth interval took m).start < stop) →
    (Look.nth interval took n).notice stop ≠ (Look.nth interval took n).start

def Run.finish (r : Run) : Nat := r.start + r.took

def Run.nth (interval : Nat) (course : Course) (n : Nat) : Run :=
  ⟨(Look.nth interval course.took n).start, course.took n, course.result n⟩

namespace Progress

def done (interval : Nat) (course : Course) (n : Nat) : Progress :=
  ⟨Look.nth interval course.took n, ((List.range n).map (Run.nth interval course)).reverse, none⟩

theorem look_done (n : Nat) : (done interval course n).look = Look.nth interval course.took n := rfl

theorem runs_done_succ (n : Nat) : (done interval course (n + 1)).runs =
    Run.nth interval course n :: (done interval course n).runs := by
  simp [done, List.range_succ]

theorem step_of_goes
    (goes : (Look.nth interval course.took n).stops stop (course.stopsFirst n) = false) :
    (done interval course n).step interval stop course = done interval course (n + 1) := by
  simp only [step, look_done, Look.number_nth, goes, Bool.false_eq_true, if_false]
  exact congrArg (mk _ · none) (runs_done_succ n).symm

theorem step_of_stops
    (stops : (Look.nth interval course.took n).stops stop (course.stopsFirst n) = true) :
    (done interval course n).step interval stop course =
      { done interval course n with
        ended := some ((Look.nth interval course.took n).notice stop) } := by
  simp only [step, look_done, Look.number_nth, stops, if_true]

theorem after_ended {p : Progress} (ended : p.ended.isSome = true) (looks : Nat) :
    p.after interval stop course looks = p := by
  cases looks with
  | zero => rfl
  | succ looks => rw [after, if_pos ended]

theorem after_add (p : Progress) (m n : Nat) : p.after interval stop course (m + n) =
    (p.after interval stop course m).after interval stop course n := by
  induction m generalizing p with
  | zero => rw [Nat.zero_add]; rfl
  | succ m ih =>
    cases ended : p.ended.isSome with
    | true => rw [after_ended ended, after_ended ended, after_ended ended]
    | false =>
      rw [Nat.succ_add, after, after, ended, if_neg Bool.false_ne_true, if_neg Bool.false_ne_true, ih]

-- Where a task can be: behind runs that it turned to, at work or ended with the next look.
theorem after_cases (interval stop : Nat) (course : Course) (looks : Nat) :
    ∃ n, (∀ m < n, (Look.nth interval course.took m).stops stop (course.stopsFirst m) = false) ∧
      (n = looks ∧ start.after interval stop course looks = done interval course n ∨
        n < looks ∧ (Look.nth interval course.took n).stops stop (course.stopsFirst n) = true ∧
          start.after interval stop course looks =
            { done interval course n with
              ended := some ((Look.nth interval course.took n).notice stop) }) := by
  induction looks with
  | zero => exact ⟨0, fun m early => absurd early (Nat.not_lt_zero m), .inl ⟨rfl, rfl⟩⟩
  | succ looks ih =>
    obtain ⟨n, goes, ⟨rfl, working⟩ | ⟨within, stops, ended⟩⟩ := ih
    · have next : start.after interval stop course (n + 1) =
          (done interval course n).step interval stop course := by
        rw [after_add, working]
        rfl
      cases found : (Look.nth interval course.took n).stops stop (course.stopsFirst n) with
      | true => exact ⟨n, goes, .inr ⟨Nat.lt_succ_self n, found, next.trans (step_of_stops found)⟩⟩
      | false =>
        refine ⟨n + 1, fun m early => ?_, .inl ⟨rfl, next.trans (step_of_goes found)⟩⟩
        rcases Nat.lt_succ_iff_lt_or_eq.mp early with before | rfl
        · exact goes m before
        · exact found
    · refine ⟨n, goes, .inr ⟨Nat.lt_succ_of_lt within, stops, ?_⟩⟩
      rw [after_add, ended, after_ended rfl]

theorem after_eq {count : Nat}
    (before : ∀ n, n < count ↔ (Look.nth interval course.took n).start < stop)
    (heeded : (Look.nth interval course.took count).stops stop (course.stopsFirst count) = true)
    (looks : Nat) : start.after interval stop course looks =
      if looks ≤ count then done interval course looks
      else
        { done interval course count with
          ended := some ((Look.nth interval course.took count).notice stop) } := by
  obtain ⟨n, goes, places⟩ := after_cases interval stop course looks
  have within : n ≤ count := by
    by_contra beyond
    exact absurd heeded (by simp [goes count (Nat.lt_of_not_le beyond)])
  rcases places with ⟨rfl, working⟩ | ⟨fewer, stops, ended⟩
  · rw [if_pos within, working]
  · have reached : count ≤ n := by
      by_contra early
      have goes := Look.stops_of_lt ((before n).mp (Nat.lt_of_not_le early)) (course.stopsFirst n)
      exact absurd stops (by simp [goes])
    obtain rfl := Nat.le_antisymm within reached
    rw [if_neg (Nat.not_le.mpr fewer), ended]

-- Whenever one looks, the runs are the first ones, those from the shutdown on were turned to first,
-- and the task is at work or has ended.
theorem late_runs (interval stop : Nat) (course : Course) (looks : Nat) :
    let p := start.after interval stop course looks
    ∃ n, p.runs.reverse = (List.range n).map (Run.nth interval course) ∧
      (∀ m < n, stop ≤ (Run.nth interval course m).start →
        (Look.nth interval course.took m).notice stop = (Run.nth interval course m).start ∧
          course.stopsFirst m = false) ∧
      (n = looks ∧ p.ended = none ∧ p.listening = 1 ∨
        n < looks ∧ p.ended = some ((Look.nth interval course.took n).notice stop) ∧
          p.listening = 0) := by
  obtain ⟨n, goes, places⟩ := after_cases interval stop course looks
  have turned m (early : m < n) := Look.goes_late (goes m early)
  rcases places with ⟨same, working⟩ | ⟨fewer, -, ended⟩
  · rw [working]
    exact ⟨n, List.reverse_reverse _, turned, .inl ⟨same, rfl, rfl⟩⟩
  · rw [ended]
    exact ⟨n, List.reverse_reverse _, turned, .inr ⟨fewer, rfl, rfl⟩⟩

-- The same but for what came of the runs.
structure Alike (p q : Progress) : Prop where
  look : p.look = q.look
  starts : p.runs.map Run.start = q.runs.map Run.start
  ended : p.ended = q.ended

theorem Alike.step {p q : Progress} (alike : Alike p q) (result : Nat → Except String Unit) :
    Alike (p.step interval stop { course with result }) (q.step interval stop course) := by
  unfold Progress.step
  rw [alike.look]
  dsimp only
  split
  · exact ⟨rfl, alike.starts, rfl⟩
  · refine ⟨rfl, ?_, rfl⟩
    rw [List.map_cons, List.map_cons, alike.starts]

theorem Alike.after {p q : Progress} (alike : Alike p q) (result : Nat → Except String Unit)
    (looks : Nat) : Alike (p.after interval stop { course with result } looks)
      (q.after interval stop course looks) := by
  induction looks generalizing p q with
  | zero => exact alike
  | succ looks ih =>
    unfold Progress.after
    rw [alike.ended]
    split
    · exact alike
    · exact ih (alike.step result)

end Progress

theorem Apart.begun (apart : Apart interval stop took)
    (before : ∀ n, n < count ↔ (Look.nth interval took n).start < stop) : 0 < count := by
  rw [before]
  by_contra late
  have none : stop = 0 := Nat.le_zero.mp (Nat.le_of_not_lt late)
  refine apart 0 (fun m early => absurd early (Nat.not_lt_zero m)) ?_
  rw [none]
  rfl

theorem Apart.stops (apart : Apart interval stop took)
    (before : ∀ n, n < count ↔ (Look.nth interval took n).start < stop) (stopsFirst : Bool) :
    (Look.nth interval took count).stops stop stopsFirst = true := by
  rw [Look.stops_iff (Look.le_start_count before)]
  intro same
  exact absurd same (apart count fun m early => (before m).mp early)

-- Runs keep their distance, whatever came of them, and go by their number. From the shutdown on a run
-- begins only at the instant at which the shutdown is noticed, and only if the task turns to the run
-- first. Where the shutdown meets no run, or is always turned to first, just the runs that would
-- begin before it take place, and the task ends as it comes or as the last of them ends.
theorem keeps_time (positive : 0 < interval) (stop : Nat) (course : Course) :
    let run := Run.nth interval course
    let look := Look.nth interval course.took
    ((run 0).start = 0 ∧ ∀ n, (run n).finish ≤ (run (n + 1)).start ∧
      (run (n + 1)).start ≤ max (run n).finish ((run n).start + interval) ∧
      ∀ k, (run n).start + k * interval ≤ (run (n + k)).start + tolerance) ∧
    (∀ looks,
      let p := Progress.start.after interval stop course looks
      ∃ n, p.runs.reverse = (List.range n).map run ∧
        (∀ m < n, stop ≤ (run m).start →
          (look m).notice stop = (run m).start ∧ course.stopsFirst m = false) ∧
        (n = looks ∧ p.ended = none ∧ p.listening = 1 ∨
          n < looks ∧ p.ended = some ((look n).notice stop) ∧ p.listening = 0)) ∧
    ((Apart interval stop course.took ∨ 0 < stop ∧ ∀ n, course.stopsFirst n = true) →
      ∃ last, (∀ n, n ≤ last ↔ (run n).start < stop) ∧ ∀ looks,
        let p := Progress.start.after interval stop course looks
        (looks ≤ last + 1 →
          p.runs.reverse = (List.range looks).map run ∧ p.ended = none ∧ p.listening = 1) ∧
        (last + 1 < looks →
          p.runs.reverse = (List.range (last + 1)).map run ∧
            p.ended = some (max stop (run last).finish) ∧ p.listening = 0)) ∧
    ∀ result looks,
      let p := Progress.start.after interval stop course looks
      let q := Progress.start.after interval stop { course with result } looks
      q.runs.map Run.start = p.runs.map Run.start ∧ q.ended = p.ended := by
  intro run look
  refine ⟨⟨rfl, fun n => ⟨?_, ?_, ?_⟩⟩, Progress.late_runs interval stop course, fun noticed => ?_, ?_⟩
  · exact Look.end_le_start_succ n
  · exact Look.start_succ_le n
  · exact Look.start_spaced n
  · obtain ⟨count, before⟩ := Look.exists_count positive stop course.took
    have begun : 0 < count :=
      noticed.elim (fun apart => apart.begun before) fun first => (before 0).mpr first.1
    have heeded : (Look.nth interval course.took count).stops stop (course.stopsFirst count) = true :=
      noticed.elim (fun apart => apart.stops before _) fun first =>
        Look.stops_of_first before (first.2 count)
    obtain ⟨last, rfl⟩ := Nat.exists_eq_add_of_lt begun
    rw [Nat.zero_add] at before heeded
    refine ⟨last, fun n => Nat.lt_succ_iff.symm.trans (before n), fun looks => ⟨?_, ?_⟩⟩
    · intro within
      rw [Progress.after_eq before heeded, if_pos within]
      exact ⟨List.reverse_reverse _, rfl, rfl⟩
    · intro beyond
      rw [Progress.after_eq before heeded, if_neg (Nat.not_le.mpr beyond)]
      exact ⟨List.reverse_reverse _, rfl, rfl⟩
  · intro result looks p q
    have alike : Progress.Alike Progress.start Progress.start := ⟨rfl, rfl, rfl⟩
    have same : Progress.Alike q p := alike.after result looks
    exact ⟨same.starts, same.ended⟩

-- The second of these runs takes so long that the third one is late, and the shutdown comes in the
-- fourth one.
def longCourse : Course where
  took n := [3, 25, 0, 6].getD n 0
  result n := if n = 1 then .error "slow" else .ok ()
  stopsFirst _ := false

theorem keeps_time_long :
    0 < 10 ∧ Apart 10 47 longCourse.took ∧
      let p := Progress.start.after 10 47 longCourse 5
      p.runs.reverse.map Run.start = [0, 10, 35, 45] ∧ p.ended = some 51 ∧ p.listening = 0 := by
  have apart : Apart 10 47 longCourse.took := by
    have few : ∀ n < 5, (Look.nth 10 longCourse.took n).notice 47 ≠
        (Look.nth 10 longCourse.took n).start := by decide
    intro n before
    by_contra same
    have many : 4 < n := Nat.lt_of_not_le fun within => few n (Nat.lt_succ_of_le within) same
    exact absurd (before 4 many) (by decide)
  obtain ⟨last, before, ends⟩ := (keeps_time (by decide) 47 longCourse).2.2.1 (.inl apart)
  have fourth : 3 ≤ last := (before 3).mpr (by decide)
  have fifth : ¬ 4 ≤ last := (before 4).not.mpr (by decide)
  obtain rfl : last = 3 := by omega
  obtain ⟨runs, ended, deaf⟩ := (ends 5).2 (by decide)
  refine ⟨by decide, apart, ?_, ended, deaf⟩
  rw [runs]
  decide

theorem begins_after_stop :
    (∀ n, (Look.nth 10 longCourse.took n).due ≠ 12 ∧ (Look.nth 10 longCourse.took n).start ≠ 12) ∧
      (let p := Progress.start.after 10 12 longCourse 3
      p.runs.reverse.map Run.start = [0, 10, 35] ∧ p.ended = none) ∧
      starts 2 7 [6] = [0, 6, 6, 6] := by
  refine ⟨fun n => ?_, by decide, by decide⟩
  rcases Nat.lt_or_ge n 2 with early | late
  · have few : ∀ n < 2, (Look.nth 10 longCourse.took n).due ≠ 12 ∧
        (Look.nth 10 longCourse.took n).start ≠ 12 := by decide
    exact few n early
  · have due := Look.due_spaced 10 longCourse.took 2 (n - 2)
    rw [Nat.add_sub_cancel' late, show (Look.nth 10 longCourse.took 2).due = 20 from rfl] at due
    have begun := (Look.nth 10 longCourse.took n).due_le_start
    omega

theorem starts_eq (positive : 0 < interval) (stop : Nat) (durations : List Nat) :
    let start n := (Look.nth interval (fun n => durations.getD n 0) n).start
    ∃ count, (∀ n, n < count ↔ start n < stop) ∧
      starts interval stop durations = (List.range count).map start := by
  intro start
  obtain ⟨count, before⟩ := Look.exists_count positive stop fun n => durations.getD n 0
  refine ⟨count, before, ?_⟩
  have few : ¬ stop + 1 ≤ count := by
    intro many
    have early := (before stop).mp many
    exact absurd early (Nat.not_lt.mpr (Look.le_start positive stop))
  let course : Course := ⟨fun n => durations.getD n 0, fun _ => .ok (), fun _ => true⟩
  have heeded : (Look.nth interval course.took count).stops stop (course.stopsFirst count) = true :=
    Look.stops_of_first before rfl
  have ended := Progress.after_eq before heeded (stop + 1)
  rw [if_neg few] at ended
  change ((Progress.start.after interval stop course (stop + 1)).runs.map Run.start).reverse = _
  rw [ended, ← List.map_reverse]
  change ((List.range count).map (Run.nth interval course)).reverse.reverse.map Run.start = _
  rw [List.reverse_reverse, List.map_map]
  rfl

end Treasury.Schedule
