import Treasury.Proofs.Decimal.Reading

namespace Treasury.Decimal

def signed (negative : Bool) (d : Decimal) : Decimal :=
  { d with negative := negative && d.magnitude != 0 }

def plain (d : Decimal) : Decimal := d.signed d.negative

theorem units_plain (d : Decimal) : d.plain.units = d.units := by
  rcases Nat.eq_zero_or_pos d.magnitude with zero | some
  · simp [units, plain, signed, zero]
  · simp [units, plain, signed, Nat.ne_of_gt some]

theorem value_plain (d : Decimal) : d.plain.value = d.value := by
  rw [value, units_plain]
  rfl

theorem plain_of_ne (d : Decimal) (some : d.magnitude ≠ 0) : d.plain = d := by
  cases d
  simp [plain, signed, bne_iff_ne.2 some]

section Signed

variable {negative : Bool}

-- The sign takes no part in reading; it is put to what the digits give.
theorem finish_signed (m s : Nat) : finish negative m s = (finish false m s).map (signed negative) := by
  unfold finish make?
  split <;> simp [signed, Except.map]

theorem cut_signed (m s : Nat) (first : Char) (later : List Char) :
    cut negative m s first later = (cut false m s first later).map (signed negative) := by
  unfold cut
  split
  · rfl
  · split_ifs
    · exact finish_signed _ _
    · rfl
    · exact finish_signed _ _
    · exact finish_signed _ _

theorem scan_signed (m s : Nat) (point started : Bool) (cs : List Char) :
    scan negative m s point started cs = (scan false m s point started cs).map (signed negative) := by
  induction cs generalizing m s point started with
  | nil =>
    unfold scan
    split
    · exact finish_signed m s
    · rfl
  | cons c rest ih =>
    unfold scan
    by_cases digit : c.isDigit = true
    · simp only [if_pos digit]
      generalize (if point = true then s + 1 else s) = places
      split_ifs
      · cases rest with
        | nil => exact finish_signed _ _
        | cons first later =>
          dsimp only
          split_ifs
          · exact cut_signed _ _ _ _
          · exact ih _ _ _ _
      · exact cut_signed _ _ _ _
      · rfl
    · simp only [if_neg digit]
      split_ifs
      · rfl
      · exact ih _ _ _ _
      · exact ih _ _ _ _
      · rfl
      · rfl

end Signed

theorem ofPlain_minus {cs : List Char} (written : Written cs n p) :
    ofPlain ('-' :: cs) = (ofPlain cs).map (signed true) := by
  obtain ⟨c, rest, rfl, digit⟩ := written_head written
  have unsigned := digit_ne digit
  have bare : ofPlain (c :: rest) = scan false 0 0 false false (c :: rest) := by
    unfold ofPlain
    split <;> simp_all
  rw [bare]
  exact scan_signed 0 0 false false _

-- What is written with no more digits than a decimal has is read as it stands.
theorem ofPlain_exact {d : Decimal} (written : Written cs d.magnitude d.scale) :
    ofPlain cs = .ok (d.signed false) := by
  rw [(ofPlain_written written).ok_iff]
  have small : d.magnitude < 2 ^ 96 := d.magnitude_lt
  refine ⟨rfl, Nat.le_refl _, ?_, fun k more within _ => ?_⟩
  · change d.magnitude = roundHalfUp d.magnitude (10 ^ (d.scale - d.scale))
    rw [Nat.sub_self, pow_zero, roundHalfUp_one]
  · change d.scale < k at more
    omega

theorem ofDigitChars_padded (width n : Nat) : Nat.ofDigitChars 10 (Text.padded width n) 0 = n := by
  have zeros (k : Nat) : Nat.ofDigitChars 10 (List.replicate k '0') 0 = 0 := by
    induction k with
    | zero => rfl
    | succ k ih => rw [List.replicate_succ, Nat.ofDigitChars_cons]; exact ih
  dsimp only [Text.padded]
  rw [Nat.ofDigitChars_append, zeros, Nat.ofDigitChars_toDigits (by omega) (by omega)]

theorem isDigit_padded (width n : Nat) : ∀ c ∈ Text.padded width n, c.isDigit = true := by
  intro c mem
  rcases List.mem_append.mp mem with zero | digit
  · rw [List.eq_of_mem_replicate zero]
    rfl
  · exact Nat.isDigit_of_mem_toDigits (by omega) (by omega) digit

theorem length_padded (width n : Nat) : width ≤ (Text.padded width n).length := by
  simp [Text.padded]
  omega

def digits (d : Decimal) : List Char :=
  let digits := Text.padded (d.scale + 1) d.magnitude
  let whole := digits.length - d.scale
  digits.take whole ++ if d.scale = 0 then [] else '.' :: digits.drop whole

theorem written_digits (d : Decimal) : Written d.digits d.magnitude d.scale := by
  have long := length_padded (d.scale + 1) d.magnitude
  have digit := isDigit_padded (d.scale + 1) d.magnitude
  have amount := ofDigitChars_padded (d.scale + 1) d.magnitude
  unfold digits
  generalize Text.padded (d.scale + 1) d.magnitude = cs at long digit amount
  dsimp only
  by_cases none : d.scale = 0
  · have some : cs ≠ [] := by
      rintro rfl
      simp at long
    rw [if_pos none, none, Nat.sub_zero, List.take_length, List.append_nil, ← amount]
    exact .whole some digit
  · have before : cs.take (cs.length - d.scale) ≠ [] := by
      rw [← List.length_pos_iff, List.length_take]
      omega
    have length : (cs.drop (cs.length - d.scale)).length = d.scale := by
      rw [List.length_drop]
      omega
    have behind : cs.drop (cs.length - d.scale) ≠ [] := by
      rw [← List.length_pos_iff]
      omega
    have written := Written.fraction before behind (fun c mem => digit c (List.mem_of_mem_take mem))
      fun c mem => digit c (List.mem_of_mem_drop mem)
    rw [if_neg none]
    rwa [List.take_append_drop, amount, length] at written

theorem toChars_eq (d : Decimal) : d.toChars = (if d.negative then ['-'] else []) ++ d.digits := by
  simp [toChars, digits]

theorem ofText?_toText (d : Decimal) : ofText? d.toText = some d.plain := by
  have read : ofPlain d.toChars = .ok d.plain := by
    rw [toChars_eq]
    cases sign : d.negative with
    | false =>
      have same : d.plain = d.signed false := by rw [plain, sign]
      rw [same]
      exact ofPlain_exact d.written_digits
    | true =>
      change ofPlain ('-' :: d.digits) = _
      rw [ofPlain_minus d.written_digits, ofPlain_exact d.written_digits, plain, sign]
      rfl
  rw [ofText?, ofText, toText, String.toList_ofList, ofChars, read]
  rfl

end Treasury.Decimal
