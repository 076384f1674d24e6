import Treasury.Decimal.Binary

namespace Treasury

structure Number where
  negative : Bool
  whole : List Char
  fraction : Option (List Char)
  -- The sign (true for a minus) and the digits of the power of ten.
  power : Option (Bool × List Char)
deriving DecidableEq, Repr

inductive Json where
  | null
  | bool (value : Bool)
  | number (value : Number)
  | text (value : String)
  | array (items : List Json)
  | object (members : List (String × Json))
deriving Inhabited

namespace Number

def ofInt (n : Int) : Number := ⟨decide (n < 0), Nat.toDigits 10 n.natAbs, none, none⟩
def ofNat (n : Nat) : Number := ofInt n

-- A whole number of 64 binary digits, signed or not. Minus zero is none: it has a sign that a
-- whole number cannot carry.
def int? (n : Number) : Option Int :=
  let value := Nat.ofDigitChars 10 n.whole 0
  if n.fraction.isSome ∨ n.power.isSome then none
  else if n.negative then
    if 0 < value ∧ value ≤ Nat.pow 2 63 then some (-(value : Int)) else none
  else if value < UInt64.size then some value
  else none

-- Digits are gathered while the significand has 64 binary digits; those after it only move the
-- point when they are in front of it.
structure Gathered where
  significand : Nat
  exponent : Int
  full : Bool

def Gathered.push (afterPoint : Bool) (g : Gathered) (c : Char) : Gathered :=
  let wider := 10 * g.significand + (c.toNat - 48)
  if g.full ∨ UInt64.size ≤ wider then
    { g with full := true, exponent := if afterPoint then g.exponent else g.exponent + 1 }
  else { g with significand := wider, exponent := if afterPoint then g.exponent - 1 else g.exponent }

def gathered (n : Number) : Gathered :=
  let g := n.whole.foldl (Gathered.push false) ⟨0, 0, false⟩
  -- A point gives the digits behind it another try.
  let g := (n.fraction.getD []).foldl (Gathered.push true) { g with full := false }
  match n.power with
  | none => g
  | some (minus, digits) =>
    let e : Int := Nat.ofDigitChars 10 digits 0
    { g with exponent := if minus then g.exponent - e else g.exponent + e }

-- Exponents beyond the table are taken down in steps of 308 when negative.
def divideDown (b : Binary) (e : Int) : Nat → Option Binary
  | 0 => some ⟨0, Binary.minExponent⟩
  | steps + 1 =>
    if b.significand = 0 then some b
    else if -308 ≤ e then
      (Binary.nearest? (Nat.pow 10 (-e).toNat) 1).bind b.over?
    else
      match (Binary.nearest? (Nat.pow 10 308) 1).bind b.over? with
      | none => none
      | some lower => divideDown lower (e + 308) steps

-- Two roundings: first the significand, then its product with a power of ten that is itself
-- rounded. Nothing when the result is too large.
def binary? (n : Number) : Option Binary :=
  let g := n.gathered
  (Binary.nearest? g.significand 1).bind fun b =>
    if 0 ≤ g.exponent then
      if g.significand = 0 then some b
      else if 308 < g.exponent then none
      else (Binary.nearest? (Nat.pow 10 g.exponent.toNat) 1).bind b.times?
    else divideDown b g.exponent 4

def toDecimal? (n : Number) : Option Decimal :=
  match n.int? with
  | some i => Decimal.make? (decide (i < 0)) i.natAbs 0
  | none => n.binary?.bind (Binary.toDecimal? n.negative)

end Number
end Treasury
