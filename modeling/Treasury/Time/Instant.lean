import Treasury.Text.Basic

namespace Treasury

-- Seconds since 1970 and nanoseconds. A leap second is the second before it with a thousand
-- million nanoseconds more.
structure Instant where
  seconds : Int
  nanos : Nat
deriving DecidableEq, Repr

namespace Instant

instance : LT Instant :=
  ⟨fun a b => a.seconds < b.seconds ∨ a.seconds = b.seconds ∧ a.nanos < b.nanos⟩
instance : LE Instant :=
  ⟨fun a b => a.seconds < b.seconds ∨ a.seconds = b.seconds ∧ a.nanos ≤ b.nanos⟩
instance (a b : Instant) : Decidable (a < b) :=
  inferInstanceAs (Decidable (a.seconds < b.seconds ∨ a.seconds = b.seconds ∧ a.nanos < b.nanos))
instance (a b : Instant) : Decidable (a ≤ b) :=
  inferInstanceAs (Decidable (a.seconds < b.seconds ∨ a.seconds = b.seconds ∧ a.nanos ≤ b.nanos))

def next (t : Instant) : Instant :=
  if t.nanos + 1 < 1000000000 then ⟨t.seconds, t.nanos + 1⟩ else ⟨t.seconds + 1, 0⟩

-- Days since 1970 of a civil date: years begin in March, eras have 400 of them.
def dayOf (year : Int) (month day : Nat) : Int :=
  let y := if month ≤ 2 then year - 1 else year
  let era := y.fdiv 400
  let yearOfEra := y - era * 400
  let dayOfYear : Int := (153 * (if 2 < month then month - 3 else month + 9) + 2) / 5 + day - 1
  era * 146097 + (yearOfEra * 365 + yearOfEra / 4 - yearOfEra / 100 + dayOfYear) - 719468

def dateOf (day : Int) : Int × Nat × Nat :=
  let z := day + 719468
  let era := z.fdiv 146097
  let doe := (z - era * 146097).toNat
  let yoe := (doe - doe / 1460 + doe / 36524 - doe / 146096) / 365
  let doy := doe - (365 * yoe + yoe / 4 - yoe / 100)
  let mp := (5 * doy + 2) / 153
  let month := if mp < 10 then mp + 3 else mp - 9
  (era * 400 + yoe + (if month ≤ 2 then 1 else 0), month, doy - (153 * mp + 2) / 5 + 1)

def isLeap (year : Int) : Bool :=
  year.fmod 4 = 0 && (year.fmod 100 != 0 || year.fmod 400 = 0)

def daysIn (year : Int) (month : Nat) : Nat :=
  if month = 2 then (if isLeap year then 29 else 28)
  else if month = 4 ∨ month = 6 ∨ month = 9 ∨ month = 11 then 30
  else 31

def earliest : Instant := ⟨dayOf (-262143) 1 1 * 86400, 0⟩
def latest : Instant := ⟨dayOf 262142 12 31 * 86400 + 86399, 999999999⟩

def checked? (seconds : Int) (nanos : Nat) : Option Instant :=
  if earliest.seconds ≤ seconds ∧ seconds ≤ latest.seconds then some ⟨seconds, nanos⟩ else none

def minusMillis? (t : Instant) (ms : Int) : Option Instant :=
  let total := t.seconds * 1000000000 + t.nanos - ms * 1000000
  checked? (total.fdiv 1000000000) (total.fmod 1000000000).toNat

def yearChars (year : Int) : List Char :=
  if 0 ≤ year ∧ year ≤ 9999 then Text.padded 4 year.toNat
  else (if year < 0 then '-' else '+') :: Text.padded 4 year.natAbs

-- No fraction, or three, six or nine digits of it.
def fractionChars (nanos : Nat) : List Char :=
  if nanos = 0 then []
  else if nanos % 1000000 = 0 then '.' :: Text.padded 3 (nanos / 1000000)
  else if nanos % 1000 = 0 then '.' :: Text.padded 6 (nanos / 1000)
  else '.' :: Text.padded 9 nanos

def toChars (t : Instant) : List Char :=
  let (year, month, day) := dateOf (t.seconds.fdiv 86400)
  let second := (t.seconds.fmod 86400).toNat
  let leap := t.nanos / 1000000000
  yearChars year ++ '-' :: Text.padded 2 month ++ '-' :: Text.padded 2 day ++
    'T' :: Text.padded 2 (second / 3600) ++ ':' :: Text.padded 2 (second / 60 % 60) ++
    ':' :: Text.padded 2 (second % 60 + leap) ++ fractionChars (t.nanos % 1000000000) ++ ['Z']

def toText (t : Instant) : String := .ofList t.toChars

-- Reading is laxer: blanks before a number, one digit where two are usual, any number of
-- fraction digits, of which nine count, and several ways to write the offset.
def skipBlank (cs : List Char) : List Char := cs.dropWhile Text.isBlank

def digitRun (width : Nat) (cs : List Char) : Option (Nat × List Char) :=
  let digits := (cs.take width).takeWhile Char.isDigit
  (Text.natural? digits).map fun n => (n, cs.drop digits.length)

def number? (width : Nat) (cs : List Char) : Option (Nat × List Char) := digitRun width (skipBlank cs)

def year? (cs : List Char) : Option (Int × List Char) :=
  match skipBlank cs with
  | '-' :: rest => (digitRun rest.length rest).map fun (n, rest) => (-(n : Int), rest)
  | '+' :: rest => (digitRun rest.length rest).map fun (n, rest) => ((n : Int), rest)
  | rest => (digitRun 4 rest).map fun (n, rest) => ((n : Int), rest)

def mark? (c : Char) (cs : List Char) : Option (List Char) :=
  match skipBlank cs with
  | d :: rest => if d = c then some rest else none
  | [] => none

def nanos? (cs : List Char) : Option (Nat × List Char) :=
  match cs with
  | '.' :: rest =>
    let digits := rest.takeWhile Char.isDigit
    let kept := digits.take 9
    (Text.natural? kept).map fun n => (n * Nat.pow 10 (9 - kept.length), rest.drop digits.length)
  | rest => some (0, rest)

def twoDigits? : List Char → Option (Nat × List Char)
  | a :: b :: rest => if a.isDigit && b.isDigit then
      some (10 * (a.toNat - 48) + (b.toNat - 48), rest) else none
  | _ => none

def offset? (cs : List Char) : Option (Int × List Char) :=
  if (cs.take 3).map Char.toUpper = ['U', 'T', 'C'] then some (0, cs.drop 3)
  else
    match cs with
    | 'Z' :: rest => some (0, rest)
    | 'z' :: rest => some (0, rest)
    | sign :: rest => do
      let negative ← if sign = '+' then some false
        else if sign = '-' ∨ sign = '−' then some true else none
      let (hours, rest) ← twoDigits? rest
      let (minutes, rest) ← twoDigits? (rest.dropWhile fun c => c == ':' || Text.isBlank c)
      if 60 ≤ minutes ∨ 24 ≤ hours then none
      else
        let seconds : Int := hours * 3600 + minutes * 60
        some (if negative then -seconds else seconds, rest)
    | [] => none

def ofChars? (cs : List Char) : Option Instant := do
  let (year, cs) ← year? cs
  let (month, cs) ← (mark? '-' cs).bind (number? 2)
  let (day, cs) ← (mark? '-' cs).bind (number? 2)
  let cs ← match cs with
    | c :: rest => if c = 'T' ∨ c = 't' ∨ c = ' ' then some rest else none
    | [] => none
  let (hour, cs) ← number? 2 cs
  let (minute, cs) ← (mark? ':' cs).bind (number? 2)
  let (second, cs) ← (mark? ':' cs).bind (number? 2)
  let (nanos, cs) ← nanos? cs
  let (offset, cs) ← offset? (skipBlank cs)
  if skipBlank cs ≠ [] then none
  else if year < -262143 ∨ 262142 < year ∨ month = 0 ∨ 12 < month ∨ day = 0 ∨
      daysIn year month < day ∨ 23 < hour ∨ 59 < minute ∨ 60 < second then none
  else
    let leap := second = 60
    let second := if leap then 59 else second
    checked? (dayOf year month day * 86400 + hour * 3600 + minute * 60 + second - offset)
      (if leap then nanos + 1000000000 else nanos)

def ofText? (s : String) : Option Instant := ofChars? s.toList

end Instant
end Treasury
