import Treasury.Log.Event

namespace Treasury.Schedule

-- A delay of so many milliseconds is not noticed.
def tolerance : Nat := 5

def nextDue (interval due start : Nat) : Nat :=
  if due + tolerance < start then start + interval else due + interval

-- How the runs of a task go, by their number: how long each takes and what comes of it. Where a
-- shutdown and a run that is due are both there at one instant, either may come first.
structure Course where
  took : Nat → Nat
  result : Nat → Except String Unit
  stopsFirst : Nat → Bool

structure Run where
  start : Nat
  took : Nat
  result : Except String Unit

-- A task between two runs: how many it has done, since when it looks for what comes next, and when
-- the next one is due.
structure Look where
  number : Nat
  since : Nat
  due : Nat

namespace Look

def first : Look := ⟨0, 0, 0⟩

def start (l : Look) : Nat := max l.due l.since

def notice (stop : Nat) (l : Look) : Nat := max stop l.since

def stops (stop : Nat) (stopsFirst : Bool) (l : Look) : Bool :=
  if l.notice stop = l.start then stopsFirst else decide (l.notice stop < l.start)

def next (interval took : Nat) (l : Look) : Look :=
  ⟨l.number + 1, l.start + took, nextDue interval l.due l.start⟩

end Look

-- How far a task has come: what it looks for, the runs it has done, the latest first, and when it
-- ended.
structure Progress where
  look : Look
  runs : List Run
  ended : Option Nat

namespace Progress

def start : Progress := ⟨.first, [], none⟩

-- One look, and the run that it finds if it does not find a shutdown.
def step (interval stop : Nat) (course : Course) (p : Progress) : Progress :=
  let n := p.look.number
  if p.look.stops stop (course.stopsFirst n) then { p with ended := some (p.look.notice stop) }
  else
    ⟨p.look.next interval (course.took n),
      ⟨p.look.start, course.took n, course.result n⟩ :: p.runs, none⟩

-- After so many looks, or fewer if it ends before.
def after (interval stop : Nat) (course : Course) : Nat → Progress → Progress
  | 0, p => p
  | looks + 1, p =>
    if p.ended.isSome then p else after interval stop course looks (p.step interval stop course)

end Progress

-- The beginnings of the runs up to a shutdown that comes before a run at the same instant. Runs
-- beyond the list of durations take no time. Each run is due at least one interval after the one
-- before it, so that at most `stop` of them begin before the shutdown.
def starts (interval stop : Nat) (durations : List Nat) : List Nat :=
  let course := ⟨fun n => durations.getD n 0, fun _ => .ok (), fun _ => true⟩
  ((Progress.start.after interval stop course (stop + 1)).runs.map Run.start).reverse

-- Tasks that listen for the shutdown: the one until it has noticed, and none after that.
def listening (noticed : Bool) : Nat := if noticed then 0 else 1

def Progress.listening (p : Progress) : Nat := Schedule.listening p.ended.isSome

def task (name : String) : String × Log.Fact := ("task", .text name)

def starting (name : String) (intervalSecs : Nat) : Log.Event :=
  .of .schedule .info "Starting background task" [task name, ("interval_secs", .number intervalSecs)]

-- A run that fails is reported, and the next one comes as if it had not.
def ran (name : String) : Except String Unit → Log.Event
  | .ok () => .of .schedule .debug "Iteration finished" [task name]
  | .error reason => .of .schedule .warn "Iteration failed" [task name, ("error", .shown reason)]

def stopping (name : String) : Log.Event :=
  .of .schedule .info "Background task stopping" [task name]

end Treasury.Schedule
