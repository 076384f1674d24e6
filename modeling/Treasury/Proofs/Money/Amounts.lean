import Treasury.Proofs.Decimal.Reading

namespace Treasury

namespace Decimal

variable {d : Decimal}

theorem pos_iff : 0 < d ↔ d.negative = false ∧ d.isZero = false := by
  have positive : (0 : ℚ) < 10 ^ d.scale := by positivity
  rw [lt_iff_value, value_zero, value_eq_magnitude, div_pos_iff_of_pos_right positive]
  cases d.negative <;> simp [isZero, Nat.pos_iff_ne_zero]

theorem strip_last (m s : Nat) : (strip m s).2 = 0 ∨ (strip m s).1 % 10 ≠ 0 := by
  induction s generalizing m with
  | zero => exact .inl rfl
  | succ s ih =>
    unfold strip
    split
    · exact ih (m / 10)
    · rename_i last
      exact .inr last

theorem scale_normalize_le : d.normalize.scale ≤ n ↔ d.Whole n := by
  constructor
  · intro short
    exact whole_of_value (whole_of_scale short) (value_normalize d).symm
  · intro whole
    obtain ⟨k, digits⟩ := whole_iff.mp (whole_of_value whole (value_normalize d))
    by_contra long
    have none : d.normalize.scale ≠ 0 := by omega
    have last : d.normalize.magnitude % 10 ≠ 0 := (strip_last d.magnitude d.scale).resolve_left none
    have power : (10 : Int) ^ d.normalize.scale = 10 ^ (d.normalize.scale - n - 1) * 10 * 10 ^ n := by
      rw [← pow_succ, ← pow_add]
      congr 1
      omega
    have unit : (10 : Int) ^ n ≠ 0 := by positivity
    have tens : d.normalize.units = 10 ^ (d.normalize.scale - n - 1) * k * 10 := by
      apply mul_right_cancel₀ unit
      rw [digits, power]
      ring
    have magnitude : d.normalize.units.natAbs = d.normalize.magnitude := by
      cases h : d.normalize.negative <;> simp [units, h]
    omega

end Decimal

open Decimal

namespace Money

variable {currency : Currency}

theorem validateAmount_eq (a : Decimal) (currency : Currency) : validateAmount a currency =
    if 0 < a then
      if currency.Whole a then .ok a
      else .error (.precisionOverflow a.normalize.scale currency.decimals)
    else .error .invalidAmount := by
  have sign : (a.negative || a.isZero) = true ↔ ¬ 0 < a := by
    rw [pos_iff, Bool.or_eq_true, not_and_or, Bool.not_eq_false, Bool.not_eq_false]
  have fine : currency.decimals < a.normalize.scale ↔ ¬ currency.Whole a := by
    rw [← Nat.not_le, scale_normalize_le]
    rfl
  unfold validateAmount
  dsimp only
  rw [if_congr sign rfl rfl, ite_not, if_congr fine rfl rfl, ite_not]

theorem validateAmount_ok : validateAmount a currency = .ok d ↔ a = d ∧ 0 < a ∧ currency.Whole a := by
  rw [validateAmount_eq]
  split_ifs <;> simp_all

theorem parseAmount_ok {text : String} : parseAmount text currency = .ok d ↔
    (Text.trim text.toList ≠ [] ∧
      ((Text.trim text.toList).head? ≠ some '-' ∧ (Text.trim text.toList).head? ≠ some '+') ∧
      (Text.trim text.toList).head? ≠ some '.' ∧ (Text.trim text.toList).getLast? ≠ some '.') ∧
    ofChars (Text.trim text.toList) = .ok d ∧ 0 < d ∧ currency.Whole d := by
  unfold parseAmount
  generalize Text.trim text.toList = cs
  dsimp only
  split_ifs with empty signed before behind
  · simp [empty]
  · simp only [false_iff]
    intro passed
    exact signed.elim passed.1.2.1.1 passed.1.2.1.2
  · simp [before]
  · simp [behind]
  · rw [not_or] at signed
    cases ofChars cs with
    | error e => simp
    | ok a =>
      simp only [validateAmount_ok]
      constructor
      · rintro ⟨rfl, positive, whole⟩
        exact ⟨⟨empty, signed, before, behind⟩, rfl, positive, whole⟩
      · rintro ⟨_, ⟨⟩, positive, whole⟩
        exact ⟨rfl, positive, whole⟩

theorem written_ends (written : Written cs n p) : cs ≠ [] ∧
    (cs.head? ≠ some '-' ∧ cs.head? ≠ some '+') ∧ cs.head? ≠ some '.' ∧ cs.getLast? ≠ some '.' := by
  obtain ⟨c, rest, shape, digit⟩ := written_head written
  have first := digit_ne digit
  have last : cs.getLast? ≠ some '.' := by
    intro point
    cases written with
    | whole _ digits => exact (digit_ne (digits _ (List.mem_of_getLast? point))).1 rfl
    | @fraction ws fs _ behind _ digits =>
      have inside : fs.getLast? = some '.' := by
        obtain ⟨f, fs, rfl⟩ := List.exists_cons_of_ne_nil behind
        simpa [List.getLast?_append, List.getLast?_cons_cons] using point
      exact (digit_ne (digits _ (List.mem_of_getLast? inside))).1 rfl
  subst shape
  simp [first, last]

-- What passes is positive and whole. Of the texts with neither a separator nor a power of ten, those
-- of the grammar are read as the nearest number there is, and pass if that is positive and whole; so
-- where the number that is written fits, it passes as it is or not at all.
theorem parses_just_amounts (text : String) (currency : Currency) :
    let cs := Text.trim text.toList
    (∀ d, parseAmount text currency = .ok d → 0 < d ∧ currency.Whole d) ∧
    (Plain cs → ∀ d, parseAmount text currency = .ok d ↔
      (∃ n p, Written cs n p ∧ Nearest n p d) ∧ 0 < d ∧ currency.Whole d) ∧
    (Plain cs → (∀ n p, Written cs n p → Fits (n / 10 ^ p)) → ∀ q : ℚ,
      (∃ d, parseAmount text currency = .ok d ∧ d.value = q) ↔
        (∃ n p, Written cs n p ∧ q = n / 10 ^ p) ∧ 0 < q ∧ ∃ k : ℤ, q = k / 10 ^ currency.decimals) := by
  intro cs
  have exactly (plain : Plain cs) (d : Decimal) : parseAmount text currency = .ok d ↔
      (∃ n p, Written cs n p ∧ Nearest n p d) ∧ 0 < d ∧ currency.Whole d := by
    rw [parseAmount_ok]
    constructor
    · rintro ⟨⟨_, unsigned, before, behind⟩, read, passes⟩
      have plainly := ofChars_plain plain
      obtain ⟨n, p, written⟩ := written_of_read (plainly.symm.trans read) plain unsigned before behind
      exact ⟨⟨n, p, written, (ofChars_written written).ok_iff.mp read⟩, passes⟩
    · rintro ⟨⟨n, p, written, near⟩, passes⟩
      exact ⟨written_ends written, (ofChars_written written).ok_iff.mpr near, passes⟩
  refine ⟨fun d passed => (parseAmount_ok.mp passed).2.2, exactly, fun plain fit q => ⟨?_, ?_⟩⟩
  · rintro ⟨d, passed, rfl⟩
    obtain ⟨⟨n, p, written, near⟩, positive, whole⟩ := (exactly plain d).mp passed
    rw [lt_iff_value, value_zero] at positive
    exact ⟨⟨n, p, written, near.value (fit n p written)⟩, positive, whole⟩
  · rintro ⟨⟨n, p, written, rfl⟩, positive, whole⟩
    obtain ⟨d, read, amount⟩ := (ofChars_written written).of_fits (fit n p written)
    rw [← amount] at positive whole
    rw [← value_zero, ← lt_iff_value] at positive
    have near := (ofChars_written written).ok_iff.mp read
    exact ⟨d, (exactly plain d).mpr ⟨⟨n, p, written, near⟩, positive, whole⟩, amount⟩

theorem parses_cents :
    Plain (Text.trim " 12.50".toList) ∧ ∃ d, parseAmount " 12.50" .ngn = .ok d ∧ d.value = 25 / 2 := by
  have written : Written (Text.trim " 12.50".toList) 1250 2 := by
    have fraction : Written (['1', '2'] ++ '.' :: ['5', '0']) 1250 2 :=
      .fraction (by decide) (by decide) (List.all_eq_true.mp rfl) (List.all_eq_true.mp rfl)
    exact fraction
  obtain ⟨_, _, passes⟩ := parses_just_amounts " 12.50" .ngn
  have fits (n p : Nat) (other : Written (Text.trim " 12.50".toList) n p) : Fits (n / 10 ^ p) := by
    obtain ⟨rfl, rfl⟩ := other.unique written
    have amount : value ⟨false, 1250, 2, by norm_num, by norm_num⟩ = (1250 : Nat) / 10 ^ 2 := by
      rw [value_eq_magnitude]
      norm_num
    exact ⟨_, amount⟩
  have cents : (25 / 2 : ℚ) = (1250 : Int) / 10 ^ Currency.ngn.decimals := by
    norm_num [Currency.decimals]
  refine ⟨written.plain, (passes written.plain fits (25 / 2)).mpr ⟨⟨1250, 2, written, ?_⟩, ?_, 1250, cents⟩⟩
  · norm_num
  · norm_num

-- More digits behind the point than there is room for are rounded away before they are counted.
theorem parses_rounded :
    let text := "1.00000000000000000000000000004"
    (∃ d, parseAmount text .eur = .ok d ∧ d.value = 1) ∧
      Written (Text.trim text.toList) (10 ^ 29 + 4) 29 ∧
      ∀ n p, Written (Text.trim text.toList) n p →
        (n : ℚ) / 10 ^ p ≠ 1 ∧ ¬ ∃ k : ℤ, (n : ℚ) / 10 ^ p = k / 10 ^ Currency.eur.decimals := by
  intro text
  have written : Written (Text.trim text.toList) (10 ^ 29 + 4) 29 := by
    have fraction : Written (['1'] ++ '.' :: (List.replicate 28 '0' ++ ['4']))
        (Nat.ofDigitChars 10 (['1'] ++ (List.replicate 28 '0' ++ ['4'])) 0) 29 :=
      .fraction (by decide) (by decide) (List.all_eq_true.mp rfl) (List.all_eq_true.mp rfl)
    have number : Nat.ofDigitChars 10 (['1'] ++ (List.replicate 28 '0' ++ ['4'])) 0 = 10 ^ 29 + 4 := by
      decide +kernel
    have shape : Text.trim text.toList = ['1'] ++ '.' :: (List.replicate 28 '0' ++ ['4']) := by
      decide +kernel
    rw [number] at fraction
    rw [shape]
    exact fraction
  refine ⟨⟨⟨false, 10 ^ 28, 28, by norm_num, by norm_num⟩, by decide +kernel, ?_⟩, written, ?_⟩
  · rw [value_eq_magnitude]
    norm_num
  · intro n p other
    obtain ⟨rfl, rfl⟩ := other.unique written
    constructor
    · norm_num
    · rintro ⟨k, same⟩
      have units : (10 ^ 29 + 4 : ℚ) = k * 10 ^ 27 := by
        have scaled := congrArg (· * (10 : ℚ) ^ 29) same
        simp [Currency.decimals] at scaled
        linarith
      have whole : (10 ^ 29 + 4 : ℤ) = k * 10 ^ 27 := by exact_mod_cast units
      omega

end Money
end Treasury
