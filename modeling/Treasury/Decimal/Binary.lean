import Treasury.Decimal.Text

namespace Treasury

-- The amount significand · 2^exponent, without a sign.
structure Binary where
  significand : Nat
  exponent : Int
deriving DecidableEq, Repr

namespace Binary

def minExponent : Int := -1074
def maxExponent : Int := 971

def scaled (base num den : Nat) (e : Int) : Nat × Nat :=
  if 0 ≤ e then (num * Nat.pow base e.toNat, den) else (num, den * Nat.pow base (-e).toNat)

-- The largest e with base^e ≤ num / den, for a positive fraction whose parts have the given
-- numbers of digits.
def floorLog (base num den numDigits denDigits : Nat) : Int :=
  let guess : Int := (numDigits : Int) - denDigits
  let (n, d) := scaled base num den (-guess)
  if d ≤ n then guess else guess - 1

def decimalDigits (n : Nat) : Nat := (Nat.toDigits 10 n).length

-- The nearest number to a fraction, of two equally near the one with the even significand.
-- Nothing beyond the largest exponent.
def nearest? (num den : Nat) : Option Binary :=
  if num = 0 then some ⟨0, minExponent⟩
  else
    let e := max (floorLog 2 num den num.log2 den.log2 - 52) minExponent
    let (n, d) := scaled 2 num den (-e)
    let m := Decimal.roundEven n d
    let (m, e) := if m = Nat.pow 2 53 then (Nat.pow 2 52, e + 1) else (m, e)
    if e ≤ maxExponent then some ⟨m, e⟩ else none

def toFraction (b : Binary) : Nat × Nat := scaled 2 b.significand 1 b.exponent

def times? (a b : Binary) : Option Binary :=
  let (an, ad) := a.toFraction
  let (bn, bd) := b.toFraction
  nearest? (an * bn) (ad * bd)

def over? (a b : Binary) : Option Binary :=
  let (an, ad) := a.toFraction
  let (bn, bd) := b.toFraction
  nearest? (an * bd) (ad * bn)

-- The ends of the interval of amounts that are nearest to this one, in units of a quarter of
-- the last binary digit. The gap below a power of two is half as wide.
def quarters (b : Binary) : Nat × Nat :=
  let low := if b.significand = Nat.pow 2 52 ∧ minExponent < b.exponent then 1 else 2
  (4 * b.significand - low, 4 * b.significand + 2)

def holds (b : Binary) (digits : Nat) (power : Int) : Bool :=
  let (n, d) := scaled 10 digits 1 power
  let (low, high) := b.quarters
  let (ln, ld) := scaled 2 low 1 (b.exponent - 2)
  let (hn, hd) := scaled 2 high 1 (b.exponent - 2)
  if b.significand % 2 = 0 then ln * d ≤ n * ld && n * hd ≤ hn * d
  else ln * d < n * ld && n * hd < hn * d

-- Of the two neighbours on the grid of 10^power those that read back, the nearer one first, and
-- of two equally near ones the upper.
def onGrid? (b : Binary) (power : Int) : Option Nat :=
  let (n, d) := b.toFraction
  let (n, d) := scaled 10 n d (-power)
  let below := n / d
  let first := Decimal.roundHalfUp n d
  let second := if first = below then below + 1 else below
  if holds b first power then some first
  else if holds b second power then some second
  else none

-- Tries grids from coarse to fine, the first one coarser than the leading digit: the amount may
-- be just below a power of ten.
def shortestFrom (b : Binary) (power : Int) : Nat → Nat × Int
  | 0 => (b.significand, 0)
  | tries + 1 =>
    match onGrid? b power with
    | some digits => (digits, power)
    | none => shortestFrom b (power - 1) tries

def shortest (b : Binary) : Nat × Int :=
  if b.significand = 0 then (0, 0)
  else
    let (n, d) := b.toFraction
    shortestFrom b (floorLog 10 n d (decimalDigits n) (decimalDigits d) + 1) 18

-- Positional, without an exponent and without a fraction of zeros.
def toChars (negative : Bool) (b : Binary) : List Char :=
  let (digits, power) := b.shortest
  (if negative then ['-'] else []) ++
    (if 0 ≤ power then Nat.toDigits 10 (digits * Nat.pow 10 power.toNat)
     else
      let places := (-power).toNat
      let text := Text.padded (places + 1) digits
      text.take (text.length - places) ++ '.' :: text.drop (text.length - places))

def toDecimal? (negative : Bool) (b : Binary) : Option Decimal :=
  (Decimal.ofChars (toChars negative b)).toOption

end Binary
end Treasury
