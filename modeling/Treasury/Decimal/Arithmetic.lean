import Treasury.Decimal.Basic

namespace Treasury.Decimal

inductive Overflow where
  | addition
  | subtraction
  | multiplication
deriving DecidableEq, Repr

def Overflow.message : Overflow → String
  | .addition => "Addition overflowed"
  | .subtraction => "Subtraction overflowed"
  | .multiplication => "Multiplication overflowed"

def make? (negative : Bool) (magnitude scale : Nat) : Option Decimal :=
  if h : magnitude < Nat.pow 2 96 ∧ scale ≤ 28 then some ⟨negative, magnitude, scale, h.1, h.2⟩ else none

-- Drops `dropped` digits of `exact`, or more while the rest is too wide and has a fraction.
def narrow (negative : Bool) (exact : Nat) : Nat → Nat → Option Decimal
  | dropped, 0 => make? negative (roundEven exact (Nat.pow 10 dropped)) 0
  | dropped, scale + 1 =>
    match make? negative (roundEven exact (Nat.pow 10 dropped)) (scale + 1) with
    | some d => some d
    | none => narrow negative exact (dropped + 1) scale

def ofWide? (negative : Bool) (exact scale : Nat) : Option Decimal :=
  narrow negative exact (scale - 28) (min scale 28)

def ofInt? (exact : Int) (scale : Nat) : Option Decimal :=
  ofWide? (decide (exact < 0)) exact.natAbs scale

-- A zero operand leaves the other one as it is, scale included.
def add? (a b : Decimal) : Option Decimal :=
  if a.isZero then some b
  else if b.isZero then some a
  else
    let scale := max a.scale b.scale
    ofInt? (a.unitsAt scale + b.unitsAt scale) scale

def sub? (a b : Decimal) : Option Decimal :=
  if a.isZero then some (if b.isZero then b else -b)
  else if b.isZero then some a
  else
    let scale := max a.scale b.scale
    ofInt? (a.unitsAt scale - b.unitsAt scale) scale

-- Two short magnitudes with more than 47 fraction digits between them have the product zero.
def mul? (a b : Decimal) : Option Decimal :=
  if a.isZero ∨ b.isZero then some 0
  else if a.magnitude < UInt32.size ∧ b.magnitude < UInt32.size ∧ 47 < a.scale + b.scale then some 0
  else ofWide? (a.negative != b.negative) (a.magnitude * b.magnitude) (a.scale + b.scale)

def add (a b : Decimal) : Except Overflow Decimal := (add? a b).elim (.error .addition) .ok
def sub (a b : Decimal) : Except Overflow Decimal := (sub? a b).elim (.error .subtraction) .ok
def mul (a b : Decimal) : Except Overflow Decimal := (mul? a b).elim (.error .multiplication) .ok

def sum (ds : List Decimal) : Except Overflow Decimal := ds.foldlM add 0

end Treasury.Decimal
