import Treasury.Text.Basic

namespace Treasury

structure Uuid where
  bits : Nat
  bits_lt : bits < Nat.pow 2 128

namespace Uuid

theorem ext {a b : Uuid} (same : a.bits = b.bits) : a = b := by
  cases a
  cases same
  rfl

instance : DecidableEq Uuid := fun _ _ => decidable_of_decidable_of_iff ⟨ext, congrArg bits⟩

instance : LT Uuid := ⟨fun a b => a.bits < b.bits⟩
instance (a b : Uuid) : Decidable (a < b) := inferInstanceAs (Decidable (a.bits < b.bits))

def groups : List Nat := [8, 4, 4, 4, 12]

def cutGroups : List Nat → List Char → List (List Char)
  | [], _ => []
  | n :: rest, cs => cs.take n :: cutGroups rest (cs.drop n)

def toChars (u : Uuid) : List Char :=
  List.intercalate ['-'] (cutGroups groups (Text.hexFixed 32 u.bits))

def toText (u : Uuid) : String := .ofList u.toChars

instance : ToString Uuid := ⟨toText⟩

def ofDigits? (cs : List Char) : Option Uuid :=
  (cs.mapM Text.hexDigit?).bind fun digits =>
    let bits := digits.foldl (fun n d => 16 * n + d) 0
    if h : cs.length = 32 ∧ bits < Nat.pow 2 128 then some ⟨bits, h.2⟩ else none

def ofGroups? (cs : List Char) : Option Uuid :=
  let at? (i : Nat) := cs[i]? == some '-'
  if cs.length = 36 ∧ at? 8 ∧ at? 13 ∧ at? 18 ∧ at? 23 then
    ofDigits? (cs.take 8 ++ (cs.drop 9).take 4 ++ (cs.drop 14).take 4 ++ (cs.drop 19).take 4 ++
      cs.drop 24)
  else none

def urn : List Char := "urn:uuid:".toList

-- Bare digits, groups, groups in braces or groups behind the scheme, in any case.
def ofChars? (cs : List Char) : Option Uuid :=
  if cs.length = 32 then ofDigits? cs
  else if cs.length = 38 ∧ cs.head? = some '\x7b' ∧ cs.getLast? = some '\x7d' then
    ofGroups? ((cs.drop 1).dropLast)
  else if cs.length = 45 ∧ (cs.take 9).map Char.toLower = urn then ofGroups? (cs.drop 9)
  else ofGroups? cs

def ofText? (s : String) : Option Uuid := ofChars? s.toList

-- The n-th identifier of the fourth version: n fills the places that carry no mark.
def numbered (n : Nat) : Uuid :=
  let low := Nat.pow 2 63 + n % Nat.pow 2 62
  let middle := 4 * Nat.pow 2 12 + n / Nat.pow 2 62 % Nat.pow 2 12
  let high := n / Nat.pow 2 74 % Nat.pow 2 48
  ⟨(high * Nat.pow 2 16 + middle) * Nat.pow 2 64 + low, by
    simp only [low, middle, high, Nat.pow_eq]
    omega⟩

def version (u : Uuid) : Nat := u.bits / Nat.pow 2 76 % 16

end Uuid
end Treasury
