import Treasury.Text.Basic

namespace Treasury

structure Ulid where
  bits : Nat
  bits_lt : bits < Nat.pow 2 128
deriving DecidableEq

namespace Ulid

instance : LT Ulid := ⟨fun a b => a.bits < b.bits⟩
instance : LE Ulid := ⟨fun a b => a.bits ≤ b.bits⟩
instance (a b : Ulid) : Decidable (a < b) := inferInstanceAs (Decidable (a.bits < b.bits))
instance (a b : Ulid) : Decidable (a ≤ b) := inferInstanceAs (Decidable (a.bits ≤ b.bits))

-- The digits leave out I, L, O and U.
def alphabet : List Char := "0123456789ABCDEFGHJKMNPQRSTVWXYZ".toList

def digitChar (n : Nat) : Char := alphabet.getD (n % 32) '0'

def digit? (c : Char) : Option Nat := alphabet.idxOf? c.toUpper

def fixed : Nat → Nat → List Char
  | 0, _ => []
  | width + 1, n => fixed width (n / 32) ++ [digitChar n]

def toChars (u : Ulid) : List Char := fixed 26 u.bits

def toText (u : Ulid) : String := .ofList u.toChars

instance : ToString Ulid := ⟨toText⟩

-- Twenty-six digits in any case; what the first one has beyond 128 binary digits is dropped.
def ofChars? (cs : List Char) : Option Ulid :=
  if cs.length = 26 then
    (cs.mapM digit?).map fun digits =>
      ⟨digits.foldl (fun n d => 32 * n + d) 0 % Nat.pow 2 128, Nat.mod_lt _ (by decide)⟩
  else none

def ofText? (s : String) : Option Ulid := ofChars? s.toList

def numbered (moment n : Nat) : Ulid :=
  ⟨(moment % Nat.pow 2 48) * Nat.pow 2 80 + n % Nat.pow 2 80, by
    simp only [Nat.pow_eq]
    omega⟩

end Ulid
end Treasury
