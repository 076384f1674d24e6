namespace Treasury

structure Decimal where
  negative : Bool
  magnitude : Nat
  scale : Nat
  magnitude_lt : magnitude < Nat.pow 2 96
  scale_le : scale ≤ 28
deriving DecidableEq

namespace Decimal

def zero : Decimal := ⟨false, 0, 0, by decide, by decide⟩
def one : Decimal := ⟨false, 1, 0, by decide, by decide⟩

instance : OfNat Decimal 0 := ⟨zero⟩
instance : OfNat Decimal 1 := ⟨one⟩
instance : Inhabited Decimal := ⟨zero⟩

def ofUInt32 (n : UInt32) : Decimal :=
  ⟨false, n.toNat, 0, Nat.lt_trans n.toNat_lt (by decide), by decide⟩

def units (d : Decimal) : Int := if d.negative then -(d.magnitude : Int) else d.magnitude

-- The amount in units of 10^-n, for any n at least as large as the scale.
def unitsAt (n : Nat) (d : Decimal) : Int := d.units * (Nat.pow 10 (n - d.scale) : Int)

def isZero (d : Decimal) : Bool := d.magnitude == 0

-- The sign alone, which a zero may carry too.
def neg (d : Decimal) : Decimal := { d with negative := !d.negative }

instance : Neg Decimal := ⟨neg⟩

-- Amounts are compared in units of the larger scale.
def Less (a b : Decimal) : Prop :=
  a.unitsAt (max a.scale b.scale) < b.unitsAt (max a.scale b.scale)

def AtMost (a b : Decimal) : Prop :=
  a.unitsAt (max a.scale b.scale) ≤ b.unitsAt (max a.scale b.scale)

def Same (a b : Decimal) : Prop :=
  a.unitsAt (max a.scale b.scale) = b.unitsAt (max a.scale b.scale)

instance : LT Decimal := ⟨Less⟩
instance : LE Decimal := ⟨AtMost⟩
instance (a b : Decimal) : Decidable (a < b) :=
  inferInstanceAs (Decidable (a.unitsAt _ < b.unitsAt _))
instance (a b : Decimal) : Decidable (a ≤ b) :=
  inferInstanceAs (Decidable (a.unitsAt _ ≤ b.unitsAt _))
instance (a b : Decimal) : Decidable (Same a b) :=
  inferInstanceAs (Decidable (a.unitsAt _ = b.unitsAt _))

-- A quotient rounded to the nearest whole number, a tie to the even one.
def roundEven (n d : Nat) : Nat :=
  let q := n / d
  let r := n % d
  if d < 2 * r ∨ (2 * r = d ∧ q % 2 = 1) then q + 1 else q

theorem roundEven_one (n : Nat) : roundEven n 1 = n := by
  unfold roundEven
  have zero : n % 1 = 0 := Nat.mod_one n
  simp [zero]

theorem roundEven_le (n d : Nat) (wide : 2 ≤ d) : roundEven n d ≤ n := by
  unfold roundEven
  have split := Nat.div_add_mod n d
  have half : 2 * (n / d) ≤ d * (n / d) := Nat.mul_le_mul_right _ wide
  dsimp only
  split
  · rename_i up
    have positive : 0 < n % d := by
      rcases up with up | up <;> omega
    omega
  · omega

-- Half to even at `places` fraction digits; a shorter fraction is left as it is. What is rounded
-- to zero loses its sign.
def round (places : Nat) (d : Decimal) : Decimal :=
  if h : d.scale ≤ places then d
  else
    ⟨d.negative && roundEven d.magnitude (Nat.pow 10 (d.scale - places)) != 0,
      roundEven d.magnitude (Nat.pow 10 (d.scale - places)), places,
      Nat.lt_of_le_of_lt
        (roundEven_le _ _ (Nat.le_trans (by decide : 2 ≤ Nat.pow 10 1)
          (Nat.pow_le_pow_right (by omega) (by omega))))
        d.magnitude_lt,
      Nat.le_trans (by omega) d.scale_le⟩

def strip : Nat → Nat → Nat × Nat
  | m, 0 => (m, 0)
  | m, s + 1 => if m % 10 = 0 then strip (m / 10) s else (m, s + 1)

theorem strip_le (m s : Nat) : (strip m s).1 ≤ m ∧ (strip m s).2 ≤ s := by
  induction s generalizing m with
  | zero => simp [strip]
  | succ s ih =>
    unfold strip
    split
    · have := ih (m / 10)
      exact ⟨Nat.le_trans this.1 (Nat.div_le_self _ _), by omega⟩
    · exact ⟨Nat.le_refl _, Nat.le_refl _⟩

-- The same amount without fraction zeros and without the sign of a zero.
def normalize (d : Decimal) : Decimal :=
  ⟨d.negative && d.magnitude != 0, (strip d.magnitude d.scale).1, (strip d.magnitude d.scale).2,
    Nat.lt_of_le_of_lt (strip_le _ _).1 d.magnitude_lt,
    Nat.le_trans (strip_le _ _).2 d.scale_le⟩

end Decimal
end Treasury
