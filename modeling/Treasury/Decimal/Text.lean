import Treasury.Decimal.Arithmetic
import Treasury.Text.Basic

namespace Treasury.Decimal

-- The sign and all digits of the fraction are written, also those of a zero.
def toChars (d : Decimal) : List Char :=
  let digits := Text.padded (d.scale + 1) d.magnitude
  let whole := digits.length - d.scale
  (if d.negative then ['-'] else []) ++ digits.take whole ++
    (if d.scale = 0 then [] else '.' :: digits.drop whole)

def toText (d : Decimal) : String := .ofList d.toChars

instance : ToString Decimal := ⟨toText⟩

inductive ReadError where
  | empty
  | noDigits
  | unknownCharacter
  | twoPoints
  | leadingSeparator
  | tooManyDigits
  | roundedTooWide
  | malformedExponent
  | exponentTooLarge (exponent : Nat)
  | tooLarge
deriving DecidableEq, Repr

def ReadError.message : ReadError → String
  | .empty => "Invalid decimal: empty"
  | .noDigits => "Invalid decimal: no digits found"
  | .unknownCharacter => "Invalid decimal: unknown character"
  | .twoPoints => "Invalid decimal: two decimal points"
  | .leadingSeparator => "Invalid decimal: must start lead with a number"
  | .tooManyDigits => "Invalid decimal: overflow from too many digits"
  | .roundedTooWide => "Invalid decimal: overflow from mantissa after rounding"
  | .malformedExponent => "Failed to parse"
  | .exponentTooLarge n => "Scale exceeds the maximum precision allowed: " ++ toString n ++ " > 28"
  | .tooLarge => "Number exceeds maximum value that can be represented."

-- A zero is read without its sign. A fraction of more than 28 digits, which only a separator
-- after the last of them lets in, starts over at none.
def finish (negative : Bool) (magnitude scale : Nat) : Except ReadError Decimal :=
  (make? (negative && magnitude != 0) magnitude (scale % 29)).elim (.error .tooLarge) .ok

-- What may still follow once the digits that fit are read: digits and separators.
def tail? : List Char → Option ReadError
  | [] => none
  | c :: rest =>
    if c.isDigit ∨ c = '_' then tail? rest
    else if c = '.' then some .twoPoints
    else some .unknownCharacter

-- The first character cut decides the rounding, a separator counting as zero. When rounding up
-- makes the magnitude too wide, one more digit goes.
def cut (negative : Bool) (magnitude scale : Nat) (first : Char) (later : List Char) :
    Except ReadError Decimal :=
  match tail? (first :: later) with
  | some e => .error e
  | none =>
    if first.isDigit && 5 ≤ first.toNat - 48 then
      if magnitude + 1 < Nat.pow 2 96 then finish negative (magnitude + 1) scale
      else if scale = 0 then .error .roundedTooWide
      else finish negative ((magnitude + 1 + 4) / 10) (scale - 1)
    else finish negative magnitude scale

-- Magnitudes below this bound are gathered in 64 binary digits.
def shortBound : Nat := (UInt64.size - 1) / 10 - 255

-- `point` and `started` say whether a point and a digit came before. Behind the last fraction
-- digit of a magnitude that is no longer short, a separator is passed over.
def scan (negative : Bool) (magnitude scale : Nat) (point started : Bool) :
    List Char → Except ReadError Decimal
  | [] => if started then finish negative magnitude scale else .error .noDigits
  | c :: rest =>
    if c.isDigit then
      let wider := 10 * magnitude + (c.toNat - 48)
      if wider < Nat.pow 2 96 then
        let scale := if point then scale + 1 else scale
        match rest with
        | [] => finish negative wider scale
        | first :: later =>
          if point ∧ 28 ≤ scale ∧ ¬ (first = '_' ∧ shortBound ≤ magnitude) then
            cut negative wider scale first later
          else scan negative wider scale point true rest
      else if point then cut negative magnitude scale c rest
      else .error .tooManyDigits
    else if c = '.' then
      if point then .error .twoPoints else scan negative magnitude scale true started rest
    else if c = '_' then
      if started then scan negative magnitude scale point started rest else .error .leadingSeparator
    else .error .unknownCharacter

def ofPlain (cs : List Char) : Except ReadError Decimal :=
  match cs with
  | [] => .error .empty
  | '-' :: rest => scan true 0 0 false false rest
  | '+' :: rest => scan false 0 0 false false rest
  | rest => scan false 0 0 false false rest

-- An unsigned number of 32 binary digits, behind an optional plus.
def exponent? (cs : List Char) : Option Nat :=
  let digits := match cs with
    | '+' :: rest => rest
    | rest => rest
  (Text.natural? digits).filter (· < UInt32.size)

-- A quotient rounded to the nearest whole number, a tie upward.
def roundHalfUp (n d : Nat) : Nat := (2 * n + d) / (2 * d)

def fitting (negative : Bool) (magnitude scale : Nat) : Except ReadError Decimal :=
  (make? negative magnitude scale).elim (.error .tooLarge) .ok

def timesTenToMinus (x : Nat) (d : Decimal) : Except ReadError Decimal :=
  if 28 < x then .error (.exponentTooLarge x)
  else if d.scale + x ≤ 28 then fitting d.negative d.magnitude (d.scale + x)
  else fitting d.negative (roundHalfUp d.magnitude (Nat.pow 10 (d.scale + x - 28))) 28

def timesTenTo (x : Nat) (d : Decimal) : Except ReadError Decimal :=
  if x ≤ d.scale then fitting d.negative d.magnitude (d.scale - x)
  else if 28 < x then .error (.exponentTooLarge x)
  else fitting d.negative (d.magnitude * Nat.pow 10 (x - d.scale)) 0

def isExponentMark (c : Char) : Bool := c == 'e' || c == 'E'

def ofScientific (cs : List Char) : Except ReadError Decimal :=
  match ofPlain (cs.takeWhile (!isExponentMark ·)) with
  | .error e => .error e
  | .ok base =>
    match (cs.dropWhile (!isExponentMark ·)).drop 1 with
    | '-' :: digits => (exponent? digits).elim (.error .malformedExponent) (timesTenToMinus · base)
    | digits => (exponent? digits).elim (.error .malformedExponent) (timesTenTo · base)

def ofChars (cs : List Char) : Except ReadError Decimal :=
  match ofPlain cs with
  | .ok d => .ok d
  | .error e => if cs.any isExponentMark then ofScientific cs else .error e

def ofText (s : String) : Except ReadError Decimal := ofChars s.toList

def ofText? (s : String) : Option Decimal := (ofText s).toOption

end Treasury.Decimal
