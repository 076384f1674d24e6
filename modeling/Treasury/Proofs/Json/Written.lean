import Treasury.Json.Printer
import Treasury.Json.Reader
import Treasury.Proofs.Identifier.Spelling

namespace Treasury

namespace Text

-- Digits, and one at least.
structure Digits (cs : List Char) : Prop where
  any : cs ≠ []
  all : ∀ c ∈ cs, c.isDigit = true

theorem digits_toDigits (n : Nat) : Digits (Nat.toDigits 10 n) :=
  ⟨Nat.toDigits_ne_nil, fun _ mem => Nat.isDigit_of_mem_toDigits (by omega) (by omega) mem⟩

theorem leading_toDigits (n : Nat) :
    (Nat.toDigits 10 n).head? = some '0' → Nat.toDigits 10 n = ['0'] := by
  induction n using Nat.strong_induction_on with
  | _ n ih =>
    rcases Nat.lt_or_ge n 10 with small | large
    · rw [Nat.toDigits_of_lt_base small]
      intro first
      rw [Option.some.inj first]
    · rw [Nat.toDigits_of_base_le (by omega) large, List.head?_append,
        Option.or_of_isSome (List.isSome_head?.2 Nat.toDigits_ne_nil)]
      intro first
      have zero : n / 10 = 0 := by
        rw [← Nat.ofDigitChars_ten_toDigits (n := n / 10), ih (n / 10) (by omega) first]
        rfl
      omega

end Text

namespace Number

-- The digits of a number as they may stand in a text.
structure Formed (n : Number) : Prop where
  whole : Text.Digits n.whole
  leading : n.whole.head? = some '0' → n.whole = ['0']
  fraction : ∀ digits ∈ n.fraction, Text.Digits digits
  power : ∀ power ∈ n.power, Text.Digits power.2

theorem formed_ofInt (n : Int) : (ofInt n).Formed where
  whole := Text.digits_toDigits n.natAbs
  leading := Text.leading_toDigits n.natAbs
  fraction := nofun
  power := nofun

theorem int?_ofInt {n : Int} (low : Int64.minValue.toInt ≤ n) (high : n < UInt64.size) :
    (ofInt n).int? = some n := by
  have bounds : -9223372036854775808 ≤ n ∧ n < 18446744073709551616 := ⟨low, high⟩
  have value : Nat.ofDigitChars 10 (ofInt n).whole 0 = n.natAbs := Nat.ofDigitChars_ten_toDigits
  have whole : ¬ ((ofInt n).fraction.isSome ∨ (ofInt n).power.isSome) := by simp [ofInt]
  simp only [int?, value, if_neg whole]
  rcases Int.lt_or_le n 0 with below | above
  · have sign : (ofInt n).negative = true := decide_eq_true below
    have fits : 0 < n.natAbs ∧ n.natAbs ≤ Nat.pow 2 63 := by
      have bound : Nat.pow 2 63 = 9223372036854775808 := rfl
      omega
    rw [if_pos sign, if_pos fits, Option.some_inj]
    omega
  · have sign : ¬ (ofInt n).negative = true := by simpa [ofInt] using above
    have fits : n.natAbs < UInt64.size := by
      have bound : UInt64.size = 18446744073709551616 := rfl
      omega
    rw [if_neg sign, if_pos fits, Option.some_inj]
    omega

def fractionChars (n : Number) : List Char :=
  match n.fraction with
  | none => []
  | some digits => '.' :: digits

def powerChars (n : Number) : List Char :=
  match n.power with
  | none => []
  | some (minus, digits) => 'e' :: (if minus then ['-'] else []) ++ digits

theorem toChars_eq (n : Number) : n.toChars =
    (if n.negative then ['-'] else []) ++ (n.whole ++ (n.fractionChars ++ n.powerChars)) := by
  simp only [toChars, List.append_assoc]
  rfl

end Number

namespace Json

def Ends (cs : List Char) : Prop :=
  ∀ c ∈ cs.head?, c.isDigit = false ∧ c ≠ '.' ∧ c ≠ 'e' ∧ c ≠ 'E'

theorem Ends.cons (rest : List Char) (other : c.isDigit = false ∧ c ≠ '.' ∧ c ≠ 'e' ∧ c ≠ 'E') :
    Ends (c :: rest) := by
  rintro _ ⟨⟩
  exact other

theorem digitsOf_append {digits rest : List Char} (all : ∀ c ∈ digits, c.isDigit = true)
    (other : ∀ c ∈ rest.head?, c.isDigit = false) : digitsOf (digits ++ rest) = (digits, rest) := by
  have stop : rest.takeWhile Char.isDigit = [] ∧ rest.dropWhile Char.isDigit = rest := by
    cases rest with
    | nil => exact ⟨rfl, rfl⟩
    | cons c rest => simp [other c rfl]
  rw [digitsOf, List.takeWhile_append_of_pos all, List.dropWhile_append_of_pos all, stop.1, stop.2,
    List.append_nil]

section Number

variable {n : Number} {rest : List Char} (formed : n.Formed) (ends : Ends rest)
include formed ends

theorem powerOf?_append : powerOf? (n.powerChars ++ rest) = some (n.power, rest) := by
  unfold Number.powerChars
  cases found : n.power with
  | none =>
    cases rest with
    | nil => rfl
    | cons c rest =>
      have other := (ends c rfl).2.2
      simp [powerOf?, other]
  | some power =>
    obtain ⟨minus, digits⟩ := power
    have written := formed.power _ found
    have split : digitsOf (digits ++ rest) = (digits, rest) :=
      digitsOf_append written.all fun c head => (ends c head).1
    obtain ⟨d, later, rfl⟩ := List.exists_cons_of_ne_nil written.any
    have digit := written.all d List.mem_cons_self
    have unsigned : d ≠ '-' ∧ d ≠ '+' := by constructor <;> rintro rfl <;> simp at digit
    rw [List.cons_append] at split
    cases minus <;> simp [powerOf?, split, unsigned]

omit formed in
theorem ends_powerChars : ∀ c ∈ (n.powerChars ++ rest).head?, c.isDigit = false ∧ c ≠ '.' := by
  unfold Number.powerChars
  cases n.power with
  | none => exact fun c head => ⟨(ends c head).1, (ends c head).2.1⟩
  | some power =>
    rintro c ⟨⟩
    exact ⟨rfl, by decide⟩

theorem fractionOf?_append : fractionOf? (n.fractionChars ++ (n.powerChars ++ rest)) =
    some (n.fraction, n.powerChars ++ rest) := by
  have after := ends_powerChars (n := n) ends
  unfold Number.fractionChars
  cases found : n.fraction with
  | none =>
    generalize n.powerChars ++ rest = cs at after
    cases cs with
    | nil => rfl
    | cons c cs =>
      have other := (after c rfl).2
      simp [fractionOf?, other]
  | some digits =>
    have written := formed.fraction _ found
    have split := digitsOf_append written.all fun c head => (after c head).1
    obtain ⟨d, later, rfl⟩ := List.exists_cons_of_ne_nil written.any
    rw [List.cons_append] at split
    simp [fractionOf?, split]

theorem wholeOf?_append : wholeOf? (n.whole ++ (n.fractionChars ++ (n.powerChars ++ rest))) =
    some (n.whole, n.fractionChars ++ (n.powerChars ++ rest)) := by
  have other : ∀ c ∈ (n.fractionChars ++ (n.powerChars ++ rest)).head?, c.isDigit = false := by
    unfold Number.fractionChars
    cases n.fraction with
    | none => exact fun c head => (ends_powerChars ends c head).1
    | some digits =>
      rintro c ⟨⟩
      rfl
  have split := digitsOf_append formed.whole.all other
  have leading := formed.leading
  obtain ⟨d, later, whole⟩ := List.exists_cons_of_ne_nil formed.whole.any
  rw [whole] at split leading ⊢
  unfold wholeOf?
  rw [split]
  by_cases zero : d = '0'
  · subst zero
    cases leading rfl
    rfl
  · simp [zero]

theorem numberOf?_append : numberOf? (n.toChars ++ rest) = some (n, rest) := by
  have whole := wholeOf?_append formed ends
  have fraction := fractionOf?_append formed ends
  have power := powerOf?_append formed ends
  obtain ⟨d, later, digits⟩ := List.exists_cons_of_ne_nil formed.whole.any
  have digit := formed.whole.all d (digits ▸ List.mem_cons_self)
  have unsigned : d ≠ '-' := by rintro rfl; simp at digit
  rw [n.toChars_eq, List.append_assoc, List.append_assoc, List.append_assoc]
  cases sign : n.negative with
  | true => simp [numberOf?, whole, fraction, power, ← sign]
  | false =>
    have same : ⟨false, d :: later, n.fraction, n.power⟩ = n := by rw [← sign, ← digits]
    rw [digits, List.cons_append] at whole
    simp [numberOf?, digits, unsigned, whole, fraction, power, same]

end Number

theorem unit?_hexFixed {n : Nat} (small : n < 16 ^ 4) :
    ∃ a b c d, Text.hexFixed 4 n = [a, b, c, d] ∧ unit? a b c d = some n := by
  refine ⟨_, _, _, _, rfl, ?_⟩
  simp only [unit?, Text.hexDigit?_hexChar, Option.bind_eq_bind, Option.bind_some, Option.pure_def,
    Option.some.injEq]
  omega

theorem quoted_escape (c : Char) (rest : List Char) :
    quoted (escape c ++ rest) = push c (quoted rest) := by
  by_cases named : c ∈ ['"', '\\', '\x08', '\x0c', '\n', '\r', '\t']
  · simp only [List.mem_cons, List.not_mem_nil, or_false] at named
    rcases named with rfl | rfl | rfl | rfl | rfl | rfl | rfl <;> simp [escape, quoted, escaped?]
  · simp only [List.mem_cons, List.not_mem_nil, or_false, not_or] at named
    by_cases control : c.toNat < 32
    · obtain ⟨a, b, d, e, written, read⟩ := unit?_hexFixed (n := c.toNat) (by omega)
      have low : isLow c.toNat = false := by simp [isLow]; omega
      have high : isHigh c.toNat = false := by simp [isHigh]; omega
      simp [escape, named, control, written, quoted, read, low, high]
    · simp [escape, named, control, quoted]

theorem quoted_escapes (cs rest : List Char) :
    quoted (cs.flatMap escape ++ '"' :: rest) = some (cs, rest) := by
  induction cs with
  | nil => simp [quoted]
  | cons c cs ih => rw [List.flatMap_cons, List.append_assoc, quoted_escape, ih, push]

theorem quoted_quote (s : String) (rest : List Char) :
    ∃ later, quote s ++ rest = '"' :: later ∧ quoted later = some (s.toList, rest) :=
  ⟨_, by simp [quote], quoted_escapes s.toList rest⟩

-- Values whose numbers are formed.
inductive Formed : Json → Prop
  | null : Formed .null
  | bool : Formed (.bool value)
  | number (formed : n.Formed) : Formed (.number n)
  | text : Formed (.text s)
  | array (all : ∀ item ∈ items, Formed item) : Formed (.array items)
  | object (all : ∀ member ∈ members, Formed member.2) : Formed (.object members)

theorem head_number {n : Number} (formed : n.Formed) :
    ∃ c later, n.toChars = c :: later ∧ (c = '-' ∨ c.isDigit = true) := by
  obtain ⟨d, later, whole⟩ := List.exists_cons_of_ne_nil formed.whole.any
  have digit := formed.whole.all d (whole ▸ List.mem_cons_self)
  rw [n.toChars_eq, whole]
  cases n.negative with
  | true => exact ⟨'-', _, rfl, .inl rfl⟩
  | false => exact ⟨d, _, rfl, .inr digit⟩

theorem head_toChars {j : Json} (formed : j.Formed) :
    ∃ c later, j.toChars = c :: later ∧ isSpace c = false ∧ c ≠ ']' := by
  cases formed with
  | null => exact ⟨_, _, rfl, rfl, by decide⟩
  | @bool value => cases value <;> exact ⟨_, _, rfl, rfl, by decide⟩
  | number formed =>
    obtain ⟨c, later, written, sign⟩ := head_number formed
    refine ⟨c, later, by rw [toChars, written], ?_⟩
    rcases sign with rfl | digit
    · exact ⟨rfl, by decide⟩
    · constructor
      · by_contra blank
        simp only [isSpace, Bool.not_eq_false, Bool.or_eq_true, beq_iff_eq] at blank
        rcases blank with ((rfl | rfl) | rfl) | rfl <;> simp at digit
      · rintro rfl
        simp at digit
  | text => exact ⟨_, _, rfl, rfl, by decide⟩
  | array => exact ⟨_, _, rfl, rfl, by decide⟩
  | object => exact ⟨_, _, rfl, rfl, by decide⟩

theorem skip_cons {c : Char} (rest : List Char) (solid : isSpace c = false) :
    skip (c :: rest) = c :: rest := by
  simp [skip, solid]

theorem skip_toChars {j : Json} (formed : j.Formed) (rest : List Char) :
    skip (j.toChars ++ rest) = j.toChars ++ rest := by
  obtain ⟨c, later, written, solid, -⟩ := head_toChars formed
  rw [written, List.cons_append, skip_cons _ solid]

theorem valueOf?_number {n : Number} (formed : n.Formed) (ends : Ends rest) (fuel : Nat) :
    valueOf? (fuel + 1) (n.toChars ++ rest) = some (.number n, rest) := by
  have skipped : skip (n.toChars ++ rest) = n.toChars ++ rest := skip_toChars (.number formed) rest
  have read := numberOf?_append formed ends
  obtain ⟨c, later, written, sign⟩ := head_number formed
  rw [written, List.cons_append] at skipped read ⊢
  have other : ∀ d ∈ ['n', 't', 'f', '"', '[', '\x7b'], c ≠ d := by
    rintro d named rfl
    simp only [List.mem_cons, List.not_mem_nil, or_false] at named
    rcases named with rfl | rfl | rfl | rfl | rfl | rfl <;> simp at sign
  simp only [List.mem_cons, List.not_mem_nil, or_false, forall_eq_or_imp, forall_eq] at other
  simp [valueOf?, skipped, other, read]

theorem head_items {item : Json} (formed : item.Formed) (items : List Json) :
    ∃ c later, itemsToChars (item :: items) = c :: later ∧ isSpace c = false ∧ c ≠ ']' := by
  obtain ⟨c, later, written, first⟩ := head_toChars formed
  cases items with
  | nil => exact ⟨c, later, written, first⟩
  | cons next items => exact ⟨c, _, by rw [itemsToChars, written]; rfl, first⟩

theorem head_members (member : String × Json) (members : List (String × Json)) :
    ∃ later, membersToChars (member :: members) = '"' :: later := by
  cases members <;> exact ⟨_, rfl⟩

mutual

theorem valueOf?_append : ∀ (j : Json) (fuel : Nat) (rest : List Char), j.Formed →
    2 * j.toChars.length ≤ fuel → Ends rest → valueOf? fuel (j.toChars ++ rest) = some (j, rest)
  | j, 0, rest, formed, enough, _ => by
    obtain ⟨c, later, written, -⟩ := head_toChars formed
    simp [written] at enough
  | .null, fuel + 1, rest, _, _, _ => by simp [valueOf?, toChars, skip, isSpace]
  | .bool value, fuel + 1, rest, _, _, _ => by
    cases value <;> simp [valueOf?, toChars, skip, isSpace]
  | .number n, fuel + 1, rest, .number formed, _, ends => valueOf?_number formed ends fuel
  | .text s, fuel + 1, rest, _, _, _ => by
    obtain ⟨later, written, read⟩ := quoted_quote s rest
    simp [valueOf?, toChars, written, skip_cons, isSpace, read]
  | .array [], fuel + 1, rest, _, _, _ => by simp [valueOf?, toChars, itemsToChars, skip, isSpace]
  | .array (item :: items), fuel + 1, rest, .array all, enough, _ => by
    have read := itemsOf?_append item items fuel rest all (by simp [toChars] at enough; omega)
    obtain ⟨c, later, written, solid, more⟩ := head_items (all _ List.mem_cons_self) items
    have skipped := skip_cons (later ++ ']' :: rest) solid
    rw [written, List.cons_append] at read
    simp [valueOf?, toChars, written, skip_cons, isSpace, skipped, more, read]
  | .object [], fuel + 1, rest, _, _, _ => by simp [valueOf?, toChars, membersToChars, skip, isSpace]
  | .object (member :: members), fuel + 1, rest, .object all, enough, _ => by
    have read := membersOf?_append member members fuel rest all (by simp [toChars] at enough; omega)
    obtain ⟨later, written⟩ := head_members member members
    rw [written, List.cons_append] at read
    simp [valueOf?, toChars, written, skip_cons, isSpace, read]

theorem itemsOf?_append : ∀ (item : Json) (items : List Json) (fuel : Nat) (rest : List Char),
    (∀ j ∈ item :: items, j.Formed) → 2 * (itemsToChars (item :: items)).length + 1 ≤ fuel →
    itemsOf? fuel (itemsToChars (item :: items) ++ ']' :: rest) = some (item :: items, rest)
  | item, [], fuel + 1, rest, all, enough => by
    have read := valueOf?_append item fuel (']' :: rest) (all _ List.mem_cons_self)
      (by simp [itemsToChars] at enough; omega) (.cons _ (by decide))
    simp [itemsOf?, itemsToChars, read, skip, isSpace]
  | item, next :: items, fuel + 1, rest, all, enough => by
    simp only [itemsToChars, List.length_append, List.length_cons] at enough
    have read := valueOf?_append item fuel (',' :: (itemsToChars (next :: items) ++ ']' :: rest))
      (all _ List.mem_cons_self) (by omega) (.cons _ (by decide))
    have others := itemsOf?_append next items fuel rest
      (fun j mem => all j (List.mem_cons_of_mem _ mem)) (by omega)
    simp [itemsOf?, itemsToChars, read, skip, isSpace, others]

theorem membersOf?_append : ∀ (member : String × Json) (members : List (String × Json)) (fuel : Nat)
    (rest : List Char), (∀ m ∈ member :: members, m.2.Formed) →
    2 * (membersToChars (member :: members)).length + 1 ≤ fuel →
    membersOf? fuel (membersToChars (member :: members) ++ '\x7d' :: rest) =
      some (member :: members, rest)
  | (key, value), [], fuel + 1, rest, all, enough => by
    simp only [membersToChars, List.length_append, List.length_cons] at enough
    have read := valueOf?_append value fuel ('\x7d' :: rest) (all _ List.mem_cons_self) (by omega)
      (.cons _ (by decide))
    obtain ⟨later, written, named⟩ := quoted_quote key (':' :: (value.toChars ++ '\x7d' :: rest))
    simp [membersOf?, membersToChars, written, skip_cons, isSpace, named, read]
  | (key, value), next :: members, fuel + 1, rest, all, enough => by
    simp only [membersToChars, List.length_append, List.length_cons] at enough
    have read := valueOf?_append value fuel (',' :: (membersToChars (next :: members) ++ '\x7d' :: rest))
      (all _ List.mem_cons_self) (by omega) (.cons _ (by decide))
    have others := membersOf?_append next members fuel rest
      (fun m mem => all m (List.mem_cons_of_mem _ mem)) (by omega)
    obtain ⟨later, written, named⟩ := quoted_quote key
      (':' :: (value.toChars ++ ',' :: (membersToChars (next :: members) ++ '\x7d' :: rest)))
    simp [membersOf?, membersToChars, written, skip_cons, isSpace, named, read, others]

end

theorem ofText?_toText {j : Json} (formed : j.Formed) : ofText? j.toText = some j := by
  have read := valueOf?_append j (2 * j.toChars.length + 1) [] formed (by omega) (by simp [Ends])
  rw [List.append_nil] at read
  rw [toText, ofText?, String.toList_ofList, ofChars?, read]
  rfl

end Json
end Treasury
