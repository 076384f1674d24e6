import Treasury.Identifier.Kinds
import Mathlib.Tactic.Ring

namespace Treasury

namespace Text

theorem hexChar_inj (same : hexChar m = hexChar n) : m % 16 = n % 16 := by
  have digits : ∀ i < 16, ∀ j < 16, Nat.digitChar i = Nat.digitChar j → i = j := by decide
  exact digits _ (Nat.mod_lt m (by decide)) _ (Nat.mod_lt n (by decide)) same

theorem hexFixed_length (width n : Nat) : (hexFixed width n).length = width := by
  induction width generalizing n with
  | zero => rfl
  | succ width ih => rw [hexFixed, List.length_append, ih, List.length_singleton]

theorem hexFixed_inj (same : hexFixed width m = hexFixed width n) : m % 16 ^ width = n % 16 ^ width := by
  induction width generalizing m n with
  | zero => rw [Nat.pow_zero, Nat.mod_one, Nat.mod_one]
  | succ width ih =>
    obtain ⟨high, low⟩ := List.append_inj' same rfl
    have last := hexChar_inj (List.singleton_inj.mp low)
    rw [Nat.pow_succ', Nat.mod_mul, Nat.mod_mul, ih high, last]

theorem hexFixed_ne_hyphen (mem : c ∈ hexFixed width n) : c ≠ '-' := by
  have digits : ∀ i < 16, Nat.digitChar i ≠ '-' := by decide
  induction width generalizing n with
  | zero => cases mem
  | succ width ih =>
    rcases List.mem_append.mp mem with high | low
    · exact ih high
    · rw [List.mem_singleton.mp low]
      exact digits _ (Nat.mod_lt n (by decide))

end Text

namespace Uuid

theorem cutGroups_flatten (lengths : List Nat) (cs : List Char) :
    (cutGroups lengths cs).flatten = cs.take lengths.sum := by
  induction lengths generalizing cs with
  | nil => rfl
  | cons n rest ih => rw [cutGroups, List.flatten_cons, ih, List.sum_cons, List.take_add]

theorem intercalate_filter (sep : Char) (parts : List (List Char)) :
    (List.intercalate [sep] parts).filter (· ≠ sep) = parts.flatten.filter (· ≠ sep) := by
  induction parts with
  | nil => rfl
  | cons part rest ih =>
    cases rest with
    | nil => simp [List.intercalate]
    | cons next rest =>
      rw [List.flatten_cons, List.filter_append, ← ih]
      simp [List.intercalate]

theorem toChars_digits (u : Uuid) : u.toChars.filter (· ≠ '-') = Text.hexFixed 32 u.bits := by
  rw [toChars, intercalate_filter, cutGroups_flatten, List.take_of_length_le]
  · rw [List.filter_eq_self]
    intro c mem
    simpa using Text.hexFixed_ne_hyphen mem
  · rw [Text.hexFixed_length]
    decide

theorem bits_digits (u : Uuid) : u.bits < 16 ^ 32 := Nat.lt_of_lt_of_eq u.bits_lt (by decide)

theorem toText_inj {u v : Uuid} (same : u.toText = v.toText) : u = v := by
  have chars := congrArg String.toList same
  rw [toText, toText, String.toList_ofList, String.toList_ofList] at chars
  have digits := congrArg (List.filter (· ≠ '-')) chars
  rw [toChars_digits, toChars_digits] at digits
  have bits := Text.hexFixed_inj digits
  rw [Nat.mod_eq_of_lt u.bits_digits, Nat.mod_eq_of_lt v.bits_digits] at bits
  exact Uuid.ext bits

end Uuid

theorem WithdrawalId.toString_inj {a b : WithdrawalId} (same : toString a = toString b) : a = b := by
  cases a
  cases b
  cases Uuid.toText_inj same
  rfl

end Treasury
