import Treasury.Proofs.Identifier.Text
import Mathlib.Data.List.Induction

namespace Treasury

namespace Text

theorem hexDigit?_hexChar (n : Nat) : hexDigit? (hexChar n) = some (n % 16) := by
  have digits : ∀ i < 16, hexDigit? (Nat.digitChar i) = some i := by decide
  exact digits _ (Nat.mod_lt n (by decide))

theorem forall_char {P : Char → Prop} (early : ∀ n < 128, P (Char.ofNat n))
    (late : ∀ c : Char, 128 ≤ c.toNat → P c) (c : Char) : P c := by
  rcases Nat.lt_or_ge c.toNat 128 with low | high
  · have first := early c.toNat low
    rwa [Char.ofNat_toNat] at first
  · exact late c high

section Late

variable {c d : Char} (late : 128 ≤ c.toNat)
include late

theorem not_le_of_late (early : d.toNat < 128) : ¬ c ≤ d := by
  rw [Char.le_def, UInt32.le_iff_toNat_le]
  change ¬ c.toNat ≤ d.toNat
  omega

theorem toLower_of_late : c.toLower = c := by
  have above := not_le_of_late (d := 'Z') late (by decide)
  exact dif_neg fun upper => above upper.2

theorem hexDigit?_of_late : hexDigit? c = none := by
  have above {d : Char} (early : d.toNat < 128) : ¬ c ≤ d := not_le_of_late late early
  have digit : ¬ c.isDigit = true := by
    simp only [Char.isDigit, Bool.and_eq_true, decide_eq_true_eq]
    exact fun both => above (d := '9') (by decide) both.2
  rw [hexDigit?, if_neg digit, if_neg fun both => above (by decide) both.2,
    if_neg fun both => above (by decide) both.2]

end Late

theorem hexDigit?_toLower : ∀ c : Char, hexDigit? c.toLower = hexDigit? c :=
  forall_char (by decide) fun _ late => by rw [toLower_of_late late]

theorem hexChar_of_hexDigit? : ∀ c : Char, ∀ d ∈ hexDigit? c, d < 16 ∧ c.toLower = hexChar d :=
  forall_char (by decide) fun c late d digit => by
    rw [hexDigit?_of_late late] at digit
    cases digit

theorem hexDigit?_eq_some_iff : hexDigit? c = some d ↔ d < 16 ∧ c.toLower = hexChar d := by
  refine ⟨hexChar_of_hexDigit? c d, ?_⟩
  rintro ⟨small, lower⟩
  rw [← hexDigit?_toLower, lower, hexDigit?_hexChar, Nat.mod_eq_of_lt small]

theorem toLower_eq_iff {c d : Char} (mark : d.isAlpha = false) : c.toLower = d ↔ c = d := by
  have same : ∀ c : Char, c.toLower = c ∨ c.isAlpha = true ∧ c.toLower.isAlpha = true :=
    forall_char (by decide) fun c late => .inl (toLower_of_late late)
  rcases same c with plain | ⟨letter, lower⟩
  · rw [plain]
  · constructor <;> rintro rfl <;> simp_all

def hexValue (digits : List Nat) : Nat := digits.foldl (fun n d => 16 * n + d) 0

theorem hexDigits_append {cs : List Char} {c : Char} {n : Nat} :
    (∃ digits, (cs ++ [c]).mapM hexDigit? = some digits ∧ hexValue digits = n) ↔
      (∃ digits, cs.mapM hexDigit? = some digits ∧ hexValue digits = n / 16) ∧
        hexDigit? c = some (n % 16) := by
  have last : (cs ++ [c]).mapM hexDigit? =
      (cs.mapM hexDigit?).bind fun digits => (hexDigit? c).map fun d => digits ++ [d] := by
    rw [List.mapM_append]
    cases cs.mapM hexDigit? <;> cases there : hexDigit? c <;> simp [there]
  rw [last]
  constructor
  · rintro ⟨digits, read, rfl⟩
    obtain ⟨before, some, read⟩ := Option.bind_eq_some_iff.mp read
    obtain ⟨d, digit, rfl⟩ := Option.map_eq_some_iff.mp read
    have small := (hexDigit?_eq_some_iff.mp digit).1
    have value : hexValue (before ++ [d]) = 16 * hexValue before + d := List.foldl_append ..
    exact ⟨⟨before, some, by omega⟩, digit.trans (congrArg _ (by omega))⟩
  · rintro ⟨⟨before, some, value⟩, digit⟩
    refine ⟨before ++ [n % 16], by rw [some, digit]; rfl, ?_⟩
    have sum : hexValue (before ++ [n % 16]) = 16 * hexValue before + n % 16 := List.foldl_append ..
    omega

-- Digits in any case come to a number just if they are how it is written.
theorem hexDigits_iff {cs : List Char} {n : Nat} :
    (∃ digits, cs.mapM hexDigit? = some digits ∧ hexValue digits = n) ↔
      n < 16 ^ cs.length ∧ cs.map Char.toLower = hexFixed cs.length n := by
  induction cs using List.reverseRecOn generalizing n with
  | nil => simp [hexValue, hexFixed, eq_comm]
  | append_singleton cs c ih =>
    have width : n / 16 < 16 ^ cs.length ↔ n < 16 ^ (cs.length + 1) := by
      rw [pow_succ, Nat.div_lt_iff_lt_mul (by omega)]
    have last : hexChar (n % 16) = hexChar n := by rw [hexChar, Nat.mod_mod, hexChar]
    rw [hexDigits_append, ih, hexDigit?_eq_some_iff, last, width, List.length_append,
      List.length_singleton, hexFixed, List.map_append, List.map_singleton]
    constructor
    · rintro ⟨⟨small, before⟩, _, digit⟩
      exact ⟨small, by rw [before, digit]⟩
    · rintro ⟨small, same⟩
      obtain ⟨before, digit⟩ := List.append_inj' same rfl
      exact ⟨⟨small, before⟩, Nat.mod_lt n (by omega), List.singleton_inj.mp digit⟩

theorem map_toLower_hexFixed (width n : Nat) :
    (hexFixed width n).map Char.toLower = hexFixed width n := by
  have digits : ∀ i < 16, (Nat.digitChar i).toLower = Nat.digitChar i := by decide
  induction width generalizing n with
  | zero => rfl
  | succ width ih =>
    have last : (hexChar n).toLower = hexChar n := digits _ (Nat.mod_lt n (by omega))
    rw [hexFixed, List.map_append, ih, List.map_singleton, last]

end Text

namespace Uuid

def hyphenated (digits : List Char) : List Char := List.intercalate ['-'] (cutGroups groups digits)

theorem toChars_eq (u : Uuid) : u.toChars = hyphenated (Text.hexFixed 32 u.bits) := rfl

theorem hyphenated_groups {a b c d e : List Char} (first : a.length = 8) (second : b.length = 4)
    (third : c.length = 4) (fourth : d.length = 4) (fifth : e.length = 12) :
    hyphenated (a ++ (b ++ (c ++ (d ++ e)))) =
      a ++ '-' :: (b ++ '-' :: (c ++ '-' :: (d ++ '-' :: e))) := by
  have whole : e.take 12 = e := List.take_of_length_le (by omega)
  simp [hyphenated, groups, cutGroups, List.intercalate, first, second, third, fourth, whole]

theorem map_toLower_hyphenated (digits : List Char) :
    (hyphenated digits).map Char.toLower = hyphenated (digits.map Char.toLower) := by
  simp [hyphenated, groups, cutGroups, List.intercalate]

theorem length_hyphenated {digits : List Char} (full : digits.length = 32) :
    (hyphenated digits).length = 36 := by
  simp [hyphenated, groups, cutGroups, List.intercalate, full]

theorem ofDigits?_eq_some_iff {cs : List Char} {u : Uuid} :
    ofDigits? cs = some u ↔ cs.map Char.toLower = Text.hexFixed 32 u.bits := by
  have power : (16 : Nat) ^ 32 = Nat.pow 2 128 := by decide
  have read : ofDigits? cs = some u ↔ cs.length = 32 ∧
      ∃ digits, cs.mapM Text.hexDigit? = some digits ∧ Text.hexValue digits = u.bits := by
    unfold ofDigits?
    rw [Option.bind_eq_some_iff]
    constructor
    · rintro ⟨digits, spelled, fits⟩
      dsimp only at fits
      split at fits
      · rename_i both
        cases fits
        exact ⟨both.1, digits, spelled, rfl⟩
      · cases fits
    · rintro ⟨full, digits, spelled, value⟩
      have fits : cs.length = 32 ∧ Text.hexValue digits < Nat.pow 2 128 :=
        ⟨full, value ▸ u.bits_lt⟩
      exact ⟨digits, spelled, (dif_pos fits).trans (congrArg _ (ext value))⟩
  rw [read, Text.hexDigits_iff]
  constructor
  · rintro ⟨full, _, same⟩
    rw [same, full]
  · intro same
    have full : cs.length = 32 := by
      rw [← Text.hexFixed_length 32 u.bits, ← same, List.length_map]
    rw [full]
    exact ⟨rfl, power ▸ u.bits_lt, same⟩

theorem split_at {cs : List Char} {i : Nat} (there : cs[i]? = some c) :
    cs = cs.take i ++ c :: cs.drop (i + 1) := by
  obtain ⟨inside, here⟩ := List.getElem?_eq_some_iff.mp there
  rw [← here, ← List.drop_eq_getElem_cons inside, List.take_append_drop]

def ungrouped (cs : List Char) : List Char :=
  cs.take 8 ++ (cs.drop 9).take 4 ++ (cs.drop 14).take 4 ++ (cs.drop 19).take 4 ++ cs.drop 24

structure Grouped (cs : List Char) : Prop where
  length : cs.length = 36
  first : cs[8]? = some '-'
  second : cs[13]? = some '-'
  third : cs[18]? = some '-'
  fourth : cs[23]? = some '-'

theorem ofGroups?_eq_some_iff {cs : List Char} {u : Uuid} :
    ofGroups? cs = some u ↔ Grouped cs ∧ ofDigits? (ungrouped cs) = some u := by
  unfold ofGroups?
  simp only [beq_iff_eq]
  split
  · rename_i there
    exact ⟨fun read => ⟨⟨there.1, there.2.1, there.2.2.1, there.2.2.2.1, there.2.2.2.2⟩, read⟩, (·.2)⟩
  · rename_i absent
    refine ⟨nofun, fun ⟨grouped, _⟩ => (absent ?_).elim⟩
    exact ⟨grouped.length, grouped.first, grouped.second, grouped.third, grouped.fourth⟩

theorem hyphenated_ungrouped {cs : List Char} (grouped : Grouped cs) :
    hyphenated (ungrouped cs) = cs := by
  have length := grouped.length
  have parts : cs = cs.take 8 ++ '-' :: ((cs.drop 9).take 4 ++ '-' :: ((cs.drop 14).take 4 ++
      '-' :: ((cs.drop 19).take 4 ++ '-' :: cs.drop 24))) := by
    have second : (cs.drop 9)[4]? = some '-' := by rw [List.getElem?_drop]; exact grouped.second
    have third : (cs.drop 14)[4]? = some '-' := by rw [List.getElem?_drop]; exact grouped.third
    have fourth : (cs.drop 19)[4]? = some '-' := by rw [List.getElem?_drop]; exact grouped.fourth
    have second' := split_at second
    have third' := split_at third
    have fourth' := split_at fourth
    rw [List.drop_drop] at second' third' fourth'
    rw [← fourth', ← third', ← second', ← split_at grouped.first]
  conv_rhs => rw [parts]
  unfold ungrouped
  simp only [List.append_assoc]
  exact hyphenated_groups (by simp; omega) (by simp; omega) (by simp; omega) (by simp; omega)
    (by simp; omega)

theorem cut_digits {digits : List Char} (full : digits.length = 32) :
    ∃ a b c d e : List Char, digits = a ++ (b ++ (c ++ (d ++ e))) ∧ a.length = 8 ∧ b.length = 4 ∧
      c.length = 4 ∧ d.length = 4 ∧ e.length = 12 := by
  refine ⟨digits.take 8, (digits.drop 8).take 4, (digits.drop 12).take 4, (digits.drop 16).take 4,
    digits.drop 20, ?_, by simp [full]⟩
  have joined (i : Nat) : (digits.drop i).take 4 ++ digits.drop (i + 4) = digits.drop i := by
    rw [← List.drop_drop, List.take_append_drop]
  rw [joined 16, joined 12, joined 8, List.take_append_drop]

theorem grouped_hyphenated {digits : List Char} (full : digits.length = 32) :
    Grouped (hyphenated digits) ∧ ungrouped (hyphenated digits) = digits := by
  obtain ⟨a, b, c, d, e, rfl, first, second, third, fourth, fifth⟩ := cut_digits full
  have passed {cs : List Char} {n : Nat} (short : cs.length ≤ n) : cs.drop n = [] :=
    List.drop_eq_nil_of_le short
  rw [hyphenated_groups first second third fourth fifth]
  constructor
  · constructor <;> simp [first, second, third, fourth, fifth]
  · simp (disch := omega) [ungrouped, List.drop_append, first, second, third, fourth, passed]

-- Both sides see the hyphens and the digits of a text, and neither sees its case.
theorem ofGroups?_spelled {cs : List Char} {u : Uuid} :
    ofGroups? cs = some u ↔ cs.map Char.toLower = u.toChars := by
  rw [ofGroups?_eq_some_iff, ofDigits?_eq_some_iff, toChars_eq]
  constructor
  · rintro ⟨grouped, digits⟩
    rw [← digits, ← map_toLower_hyphenated, hyphenated_ungrouped grouped]
  · intro same
    obtain ⟨grouped, digits⟩ := grouped_hyphenated (Text.hexFixed_length 32 u.bits)
    rw [← same] at grouped digits
    have hyphen {i : Nat} (there : (cs.map Char.toLower)[i]? = some '-') : cs[i]? = some '-' := by
      rw [List.getElem?_map] at there
      obtain ⟨c, here, lower⟩ := Option.map_eq_some_iff.mp there
      rw [here, (Text.toLower_eq_iff rfl).mp lower]
    refine ⟨⟨?_, hyphen grouped.first, hyphen grouped.second, hyphen grouped.third,
      hyphen grouped.fourth⟩, ?_⟩
    · rw [← grouped.length, List.length_map]
    · rw [← digits]
      simp [ungrouped]

def spellings (digits : List Char) : List (List Char) :=
  [digits, hyphenated digits, '\x7b' :: hyphenated digits ++ ['\x7d'], urn ++ hyphenated digits]

theorem spelled_of_read {cs : List Char} {u : Uuid} (read : ofChars? cs = some u) :
    cs.map Char.toLower ∈ spellings (Text.hexFixed 32 u.bits) := by
  simp only [spellings, ← toChars_eq, List.mem_cons, List.not_mem_nil, or_false]
  unfold ofChars? at read
  split_ifs at read with bare braced tailed
  · exact .inl (ofDigits?_eq_some_iff.mp read)
  · obtain ⟨length, opens, closes⟩ := braced
    obtain ⟨front, rfl⟩ := List.getLast?_eq_some_iff.mp closes
    cases front with
    | nil => simp at length
    | cons c inner =>
      obtain rfl : c = '\x7b' := by simpa using opens
      have inside : ofGroups? inner = some u := by simpa using read
      exact .inr (.inr (.inl (by simp [ofGroups?_spelled.mp inside])))
  · refine .inr (.inr (.inr ?_))
    rw [← List.take_append_drop 9 cs, List.map_append, tailed.2, ofGroups?_spelled.mp read]
  · exact .inr (.inl (ofGroups?_spelled.mp read))

-- The four spellings differ in length, which is what reading looks at first.
theorem read_of_spelled {cs : List Char} {u : Uuid}
    (spelled : cs.map Char.toLower ∈ spellings (Text.hexFixed 32 u.bits)) : ofChars? cs = some u := by
  have digits : (Text.hexFixed 32 u.bits).length = 32 := Text.hexFixed_length 32 u.bits
  have grouped : u.toChars.length = 36 := length_hyphenated digits
  have scheme : urn.length = 9 := rfl
  have length (lower : List Char) (same : cs.map Char.toLower = lower) : cs.length = lower.length := by
    rw [← same, List.length_map]
  simp only [spellings, ← toChars_eq, List.mem_cons, List.not_mem_nil, or_false] at spelled
  unfold ofChars?
  rcases spelled with bare | plain | braced | tailed
  · have long := length _ bare
    rw [if_pos (long.trans digits), ofDigits?_eq_some_iff, bare]
  · have long := length _ plain
    rw [if_neg (by omega), if_neg (by omega), if_neg (by omega), ofGroups?_spelled, plain]
  · have long := length _ braced
    simp only [List.length_append, List.length_cons, List.length_nil] at long
    obtain ⟨front, last, rfl, before, after⟩ := List.map_eq_append_iff.mp braced
    obtain ⟨c, inner, rfl, opens, inside⟩ := List.map_eq_cons_iff.mp before
    obtain ⟨d, _, rfl, closes, none⟩ := List.map_eq_cons_iff.mp after
    obtain rfl := List.map_eq_nil_iff.mp none
    obtain rfl := (Text.toLower_eq_iff rfl).mp opens
    obtain rfl := (Text.toLower_eq_iff rfl).mp closes
    rw [if_neg (by omega), if_pos ⟨by omega, rfl, List.getLast?_concat⟩]
    simpa using ofGroups?_spelled.mpr inside
  · have long := length _ tailed
    simp only [List.length_append] at long
    obtain ⟨front, groups, rfl, before, after⟩ := List.map_eq_append_iff.mp tailed
    have nine : front.length = 9 := by rw [← List.length_map, before, scheme]
    rw [if_neg (by omega), if_neg (by omega), if_pos ⟨by omega, by simpa [nine] using before⟩,
      ofGroups?_spelled]
    simpa [nine] using after

theorem ofChars?_spelled {cs : List Char} {u : Uuid} :
    ofChars? cs = some u ↔ cs.map Char.toLower ∈ spellings (Text.hexFixed 32 u.bits) :=
  ⟨spelled_of_read, read_of_spelled⟩

theorem ofText?_toText (u : Uuid) : ofText? u.toText = some u := by
  have lower : u.toChars.map Char.toLower = u.toChars := by
    rw [toChars_eq, map_toLower_hyphenated, Text.map_toLower_hexFixed]
  rw [ofText?, toText, String.toList_ofList, ofChars?_spelled, lower]
  exact List.mem_cons_of_mem _ List.mem_cons_self

end Uuid

theorem WalletId.ofText?_toString (id : WalletId) : ofText? (toString id) = some id := by
  change (Uuid.ofText? id.uuid.toText).map mk = some id
  rw [Uuid.ofText?_toText]
  rfl

theorem WithdrawalId.ofText?_toString (id : WithdrawalId) : ofText? (toString id) = some id := by
  change (Uuid.ofText? id.uuid.toText).map mk = some id
  rw [Uuid.ofText?_toText]
  rfl

end Treasury
