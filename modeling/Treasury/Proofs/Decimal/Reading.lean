import Treasury.Decimal.Text
import Treasury.Proofs.Decimal.Product

namespace Treasury.Decimal

-- Digits, or digits on both sides of a point: all of them as one number, and how many stand behind
-- the point.
inductive Written : List Char → Nat → Nat → Prop where
  | whole (some : cs ≠ []) (digits : ∀ c ∈ cs, c.isDigit = true) :
      Written cs (Nat.ofDigitChars 10 cs 0) 0
  | fraction (before : ws ≠ []) (behind : fs ≠ []) (whole : ∀ c ∈ ws, c.isDigit = true)
      (digits : ∀ c ∈ fs, c.isDigit = true) :
      Written (ws ++ '.' :: fs) (Nat.ofDigitChars 10 (ws ++ fs) 0) fs.length

theorem takeWhile_written {ws fs : List Char} (whole : ∀ c ∈ ws, c.isDigit = true) :
    (ws ++ '.' :: fs).takeWhile Char.isDigit = ws := by
  rw [List.takeWhile_append_of_pos whole, List.takeWhile_cons_of_neg (by decide), List.append_nil]

theorem Written.unique (first : Written cs n p) (second : Written cs n' p') : n = n' ∧ p = p' := by
  cases first with
  | whole _ digits =>
    generalize same : cs = text at second
    cases second with
    | whole =>
      subst same
      exact ⟨rfl, rfl⟩
    | fraction =>
      have point := digits '.' (by simp [same])
      simp at point
  | @fraction ws fs _ _ whole _ =>
    generalize same : ws ++ '.' :: fs = text at second
    cases second with
    | whole _ digits =>
      have point := digits '.' (by simp [← same])
      simp at point
    | fraction _ _ whole' _ =>
      have before := congrArg (List.takeWhile Char.isDigit) same
      rw [takeWhile_written whole, takeWhile_written whole'] at before
      subst before
      have behind := List.append_cancel_left same
      simp only [List.cons.injEq, true_and] at behind
      subst behind
      exact ⟨rfl, rfl⟩

-- The number exact / 10^places with the most fraction digits that there is room for.
structure Nearest (exact places : Nat) (d : Decimal) : Prop where
  positive : d.negative = false
  kept : d.scale ≤ places
  rounded : d.magnitude = roundHalfUp exact (10 ^ (places - d.scale))
  most : ∀ k, d.scale < k → k ≤ places → k ≤ 28 → 2 ^ 96 ≤ roundHalfUp exact (10 ^ (places - k))

def Reads (exact places : Nat) : Except ReadError Decimal → Prop
  | .ok d => Nearest exact places d
  | .error _ => 2 ^ 96 ≤ roundHalfUp exact (10 ^ places)

theorem roundHalfUp_one (n : Nat) : roundHalfUp n 1 = n := by
  unfold roundHalfUp
  omega

theorem roundHalfUp_split {m f d : Nat} (rest : f < d) :
    roundHalfUp (m * d + f) d = if d ≤ 2 * f then m + 1 else m := by
  have sum : 2 * (m * d + f) + d = 2 * f + d + m * (2 * d) := by ring
  unfold roundHalfUp
  rw [sum, Nat.add_mul_div_right _ _ (by omega)]
  split
  · rename_i up
    have one : (2 * f + d) / (2 * d) = 1 := by
      apply Nat.div_eq_of_lt_le <;> omega
    omega
  · rename_i down
    have none : (2 * f + d) / (2 * d) = 0 := Nat.div_eq_of_lt (by omega)
    omega

theorem roundHalfUp_mul (m : Nat) {d : Nat} (positive : 0 < d) : roundHalfUp (m * d) d = m := by
  have split := roundHalfUp_split (m := m) positive
  rwa [Nat.add_zero, if_neg (by omega)] at split

theorem le_roundHalfUp {m n d : Nat} (positive : 0 < d) (below : m * d ≤ n) : m ≤ roundHalfUp n d := by
  unfold roundHalfUp
  rw [Nat.le_div_iff_mul_le (by omega)]
  calc m * (2 * d) = 2 * (m * d) := by ring
    _ ≤ 2 * n + d := by omega

theorem roundHalfUp_antitone (n : Nat) {d k : Nat} (positive : 0 < d) (some : 0 < k) :
    roundHalfUp n (d * k) ≤ roundHalfUp n d := by
  unfold roundHalfUp
  generalize rounded : (2 * n + d * k) / (2 * (d * k)) = q
  have units : 0 < d * k := Nat.mul_pos positive some
  have below : q * (2 * (d * k)) ≤ 2 * n + d * k := by
    rw [← rounded]
    exact Nat.div_mul_le_self _ _
  rw [Nat.le_div_iff_mul_le (by omega)]
  rcases Nat.eq_zero_or_pos q with rfl | up
  · omega
  · obtain ⟨q, rfl⟩ := Nat.exists_eq_add_one_of_ne_zero (Nat.ne_of_gt up)
    have reached : (2 * q + 1) * d * 1 ≤ (2 * q + 1) * d * k := Nat.mul_le_mul_left _ some
    nlinarith

theorem wide_roundHalfUp {w n j exact : Nat} (wide : 2 ^ 96 ≤ w) (below : w * 10 ^ n ≤ exact)
    (fewer : j ≤ n) : 2 ^ 96 ≤ roundHalfUp exact (10 ^ j) := by
  have power : 10 ^ j ≤ 10 ^ n := Nat.pow_le_pow_right (by omega) fewer
  have shorter : w * 10 ^ j ≤ w * 10 ^ n := Nat.mul_le_mul_left w power
  have reached := le_roundHalfUp (by positivity) (shorter.trans below)
  omega

theorem digit_le {c : Char} (digit : c.isDigit = true) : c.toNat - 48 ≤ 9 := by
  simp only [Char.isDigit, Bool.and_eq_true, decide_eq_true_eq, ge_iff_le, UInt32.le_iff_toNat_le]
    at digit
  have code : c.toNat = c.val.toNat := rfl
  simp at digit
  omega

theorem digit_ne {c : Char} (digit : c.isDigit = true) : c ≠ '.' ∧ c ≠ '_' ∧ c ≠ '-' ∧ c ≠ '+' := by
  refine ⟨?_, ?_, ?_, ?_⟩ <;> rintro rfl <;> simp at digit

theorem ofDigitChars_split (cs : List Char) (digits : ∀ c ∈ cs, c.isDigit = true) (m : Nat) :
    ∃ f, f < 10 ^ cs.length ∧ Nat.ofDigitChars 10 cs m = m * 10 ^ cs.length + f := by
  induction cs generalizing m with
  | nil => exact ⟨0, by simp⟩
  | cons c rest ih =>
    have small := digit_le (digits c List.mem_cons_self)
    have code : '0'.toNat = 48 := rfl
    obtain ⟨f, below, split⟩ := ih (fun c mem => digits c (List.mem_cons_of_mem _ mem))
      (10 * m + (c.toNat - '0'.toNat))
    rw [code] at split
    have wider : (c.toNat - 48) * 10 ^ rest.length ≤ 9 * 10 ^ rest.length :=
      Nat.mul_le_mul_right _ small
    refine ⟨(c.toNat - 48) * 10 ^ rest.length + f, ?_, ?_⟩
    · rw [List.length_cons, pow_succ]
      omega
    · rw [Nat.ofDigitChars_cons, code, split, List.length_cons]
      ring

theorem le_ofDigitChars (cs : List Char) (digits : ∀ c ∈ cs, c.isDigit = true) (m : Nat) :
    m * 10 ^ cs.length ≤ Nat.ofDigitChars 10 cs m := by
  obtain ⟨f, _, split⟩ := ofDigitChars_split cs digits m
  omega

theorem ofDigitChars_half {first : Char} {later : List Char}
    (digits : ∀ c ∈ first :: later, c.isDigit = true) (m : Nat) :
    ∃ f, f < 10 ^ (later.length + 1) ∧
      Nat.ofDigitChars 10 (first :: later) m = m * 10 ^ (later.length + 1) + f ∧
      (10 ^ (later.length + 1) ≤ 2 * f ↔ 5 ≤ first.toNat - 48) := by
  have code : '0'.toNat = 48 := rfl
  have small := digit_le (digits first List.mem_cons_self)
  obtain ⟨f, below, split⟩ := ofDigitChars_split later
    (fun c mem => digits c (List.mem_cons_of_mem _ mem)) (10 * m + (first.toNat - 48))
  have wider : (first.toNat - 48) * 10 ^ later.length ≤ 9 * 10 ^ later.length :=
    Nat.mul_le_mul_right _ small
  refine ⟨(first.toNat - 48) * 10 ^ later.length + f, ?_, ?_, ?_⟩
  · rw [pow_succ]
    omega
  · rw [Nat.ofDigitChars_cons, code, split]
    ring
  · rw [pow_succ]
    constructor
    · intro up
      by_contra low
      have less : (first.toNat - 48) * 10 ^ later.length ≤ 4 * 10 ^ later.length :=
        Nat.mul_le_mul_right _ (by omega)
      omega
    · intro up
      have more : 5 * 10 ^ later.length ≤ (first.toNat - 48) * 10 ^ later.length :=
        Nat.mul_le_mul_right _ up
      omega

theorem tail?_digits {cs : List Char} (digits : ∀ c ∈ cs, c.isDigit = true) : tail? cs = none := by
  induction cs with
  | nil => rfl
  | cons c rest ih =>
    have later := ih fun c mem => digits c (List.mem_cons_of_mem _ mem)
    simp [tail?, digits c List.mem_cons_self, later]

theorem finish_ok {m s : Nat} (small : m < 2 ^ 96) (short : s ≤ 28) :
    finish false m s = .ok ⟨false, m, s, small, short⟩ := by
  have place : s % 29 = s := Nat.mod_eq_of_lt (by omega)
  rw [finish, place, Bool.false_and, make?_some false small short]
  rfl

section Digits

variable {m s : Nat} {cs : List Char} {started : Bool}

theorem finish_reads (small : m < 2 ^ 96) (short : s ≤ 28) : Reads m s (finish false m s) := by
  rw [finish_ok small short]
  refine ⟨rfl, Nat.le_refl s, ?_, fun k longer within _ => ?_⟩
  · simp [roundHalfUp_one]
  · dsimp only at longer
    omega

section Cut

variable {first : Char} {later : List Char} (digits : ∀ c ∈ first :: later, c.isDigit = true)
include digits

theorem roundHalfUp_cut (m : Nat) :
    roundHalfUp (Nat.ofDigitChars 10 (first :: later) m) (10 ^ (later.length + 1)) =
      if 5 ≤ first.toNat - 48 then m + 1 else m := by
  obtain ⟨f, below, split, half⟩ := ofDigitChars_half digits m
  rw [split, roundHalfUp_split below, if_congr half rfl rfl]

-- The widest magnitude ends with a 5, and so gives way to the next number of one digit less.
theorem roundHalfUp_widest :
    roundHalfUp (Nat.ofDigitChars 10 (first :: later) (2 ^ 96 - 1)) (10 ^ (later.length + 2)) =
      7922816251426433759354395034 := by
  obtain ⟨f, below, split, _⟩ := ofDigitChars_half digits (2 ^ 96 - 1)
  have power : 10 ^ (later.length + 2) = 10 ^ (later.length + 1) * 10 := pow_succ 10 _
  have shifted : Nat.ofDigitChars 10 (first :: later) (2 ^ 96 - 1) =
      7922816251426433759354395033 * 10 ^ (later.length + 2) + (5 * 10 ^ (later.length + 1) + f) := by
    rw [split, power]
    ring
  rw [shifted, roundHalfUp_split (by omega), if_pos (by omega)]

theorem wide_cut (full : s = 28 ∨ 2 ^ 96 ≤ 10 * m + (first.toNat - 48)) {k : Nat} (longer : s < k)
    (within : k ≤ 28) :
    2 ^ 96 ≤ roundHalfUp (Nat.ofDigitChars 10 (first :: later) m) (10 ^ (s + (later.length + 1) - k)) := by
  rcases full with last | wide
  · omega
  · have code : '0'.toNat = 48 := rfl
    have later := le_ofDigitChars later (fun c mem => digits c (List.mem_cons_of_mem _ mem))
      (10 * m + (first.toNat - 48))
    rw [Nat.ofDigitChars_cons, code]
    exact wide_roundHalfUp wide later (by omega)

theorem finish_cut {m' : Nat} (small : m' < 2 ^ 96) (short : s ≤ 28)
    (full : s = 28 ∨ 2 ^ 96 ≤ 10 * m + (first.toNat - 48))
    (rounded : roundHalfUp (Nat.ofDigitChars 10 (first :: later) m) (10 ^ (later.length + 1)) = m') :
    Reads (Nat.ofDigitChars 10 (first :: later) m) (s + (later.length + 1)) (finish false m' s) := by
  have places : s + (later.length + 1) - s = later.length + 1 := by omega
  rw [finish_ok small short]
  exact ⟨rfl, by simp, by simp only [places, rounded], fun k longer _ => wide_cut digits full longer⟩

theorem finish_widest (short : s + 1 ≤ 28)
    (full : s + 1 = 28 ∨ 2 ^ 96 ≤ 10 * (2 ^ 96 - 1) + (first.toNat - 48))
    (up : 5 ≤ first.toNat - 48) :
    Reads (Nat.ofDigitChars 10 (first :: later) (2 ^ 96 - 1)) (s + 1 + (later.length + 1))
      (finish false 7922816251426433759354395034 s) := by
  have here := roundHalfUp_cut digits (2 ^ 96 - 1)
  have fewer : s + 1 + (later.length + 1) - s = later.length + 2 := by omega
  have places : s + 1 + (later.length + 1) - (s + 1) = later.length + 1 := by omega
  rw [if_pos up] at here
  rw [finish_ok (by norm_num) (by omega)]
  refine ⟨rfl, by dsimp only; omega, ?_, fun k longer _ within => ?_⟩
  · dsimp only
    rw [fewer, roundHalfUp_widest digits]
  · dsimp only at longer
    rcases Nat.lt_or_ge (s + 1) k with further | same
    · exact wide_cut digits full further within
    · obtain rfl : k = s + 1 := by omega
      rw [places, here]
      omega

-- The first digit that finds no room decides.
theorem cut_reads (small : m < 2 ^ 96) (short : s ≤ 28)
    (full : s = 28 ∨ 2 ^ 96 ≤ 10 * m + (first.toNat - 48)) :
    Reads (Nat.ofDigitChars 10 (first :: later) m) (s + (later.length + 1))
      (cut false m s first later) := by
  have here := roundHalfUp_cut digits m
  unfold cut
  rw [tail?_digits digits, Nat.pow_eq]
  dsimp only
  by_cases up : 5 ≤ first.toNat - 48
  · rw [if_pos up] at here
    simp only [digits first List.mem_cons_self, up, decide_true, Bool.and_self, if_true]
    by_cases fits : m + 1 < 2 ^ 96
    · rw [if_pos fits]
      exact finish_cut digits fits short full here
    · obtain rfl : m = 2 ^ 96 - 1 := by omega
      rw [if_neg fits]
      cases s with
      | zero =>
        change 2 ^ 96 ≤ roundHalfUp _ (10 ^ (0 + (later.length + 1)))
        rw [Nat.zero_add, here]
        omega
      | succ s =>
        have tenth : (2 ^ 96 - 1 + 1 + 4) / 10 = 7922816251426433759354395034 := by norm_num
        rw [if_neg (Nat.succ_ne_zero s), Nat.add_sub_cancel, tenth]
        exact finish_widest digits short full up
  · rw [if_neg up] at here
    simp only [up, decide_false, Bool.and_false, Bool.false_eq_true, if_false]
    exact finish_cut digits small short full here

end Cut

theorem scan_fraction (started : Bool) (digits : ∀ c ∈ cs, c.isDigit = true) (small : m < 2 ^ 96) (short : s ≤ 28)
    (room : cs ≠ [] → s < 28) (some : cs = [] → started = true) :
    Reads (Nat.ofDigitChars 10 cs m) (s + cs.length) (scan false m s true started cs) := by
  induction cs generalizing m s started with
  | nil =>
    rw [scan, if_pos (some rfl)]
    exact finish_reads small short
  | cons c rest ih =>
    have digit := digits c List.mem_cons_self
    have later : ∀ c ∈ rest, c.isDigit = true := fun c mem => digits c (List.mem_cons_of_mem _ mem)
    have more : s + 1 ≤ 28 := room (List.cons_ne_nil c rest)
    have code : '0'.toNat = 48 := rfl
    unfold scan
    rw [if_pos digit, Nat.pow_eq]
    dsimp only
    by_cases fits : 10 * m + (c.toNat - 48) < 2 ^ 96
    · have places : s + (c :: rest).length = s + 1 + rest.length := by
        rw [List.length_cons]
        omega
      rw [if_pos fits, places, Nat.ofDigitChars_cons, code]
      cases rest with
      | nil => exact finish_reads fits more
      | cons first rest =>
        have plain : first ≠ '_' := (digit_ne (later first List.mem_cons_self)).2.1
        simp only [plain, false_and, not_false_iff, and_true, true_and, if_true]
        split
        · exact cut_reads later fits more (.inl (by omega))
        · exact ih true later fits more (fun _ => by omega) nofun
    · rw [if_neg fits]
      exact cut_reads digits small short (.inr (Nat.le_of_not_lt fits))

theorem scan_digit {c : Char} (digit : c.isDigit = true) (cs : List Char) :
    scan false m 0 false started (c :: cs) =
      if 10 * m + (c.toNat - 48) < 2 ^ 96 then scan false (10 * m + (c.toNat - 48)) 0 false true cs
      else .error .tooManyDigits := by
  rw [scan, if_pos digit, Nat.pow_eq]
  cases cs with
  | nil => rfl
  | cons first rest => simp

theorem scan_whole (started : Bool) {ws : List Char} (digits : ∀ c ∈ ws, c.isDigit = true) (rest : List Char)
    (fits : Nat.ofDigitChars 10 ws m < 2 ^ 96) :
    scan false m 0 false started (ws ++ rest) =
      scan false (Nat.ofDigitChars 10 ws m) 0 false (started || !ws.isEmpty) rest := by
  induction ws generalizing m started with
  | nil => simp
  | cons c ws ih =>
    have later : ∀ c ∈ ws, c.isDigit = true := fun c mem => digits c (List.mem_cons_of_mem _ mem)
    have code : '0'.toNat = 48 := rfl
    rw [Nat.ofDigitChars_cons, code] at fits ⊢
    have grows := le_ofDigitChars ws later (10 * m + (c.toNat - 48))
    have power : 1 ≤ 10 ^ ws.length := Nat.one_le_pow _ _ (by omega)
    have narrow : 10 * m + (c.toNat - 48) < 2 ^ 96 := by nlinarith
    rw [List.cons_append, scan_digit (digits c List.mem_cons_self), if_pos narrow, ih true later fits]
    simp

theorem scan_wide (started : Bool) {ws : List Char} (digits : ∀ c ∈ ws, c.isDigit = true) (rest : List Char)
    (small : m < 2 ^ 96) (wide : 2 ^ 96 ≤ Nat.ofDigitChars 10 ws m) :
    scan false m 0 false started (ws ++ rest) = .error .tooManyDigits := by
  induction ws generalizing m started with
  | nil =>
    rw [Nat.ofDigitChars_nil] at wide
    omega
  | cons c ws ih =>
    have later : ∀ c ∈ ws, c.isDigit = true := fun c mem => digits c (List.mem_cons_of_mem _ mem)
    rw [List.cons_append, scan_digit (digits c List.mem_cons_self)]
    split
    · rename_i narrow
      exact ih true later narrow wide
    · rfl

end Digits

theorem written_head (written : Written cs n p) : ∃ c rest, cs = c :: rest ∧ c.isDigit = true := by
  cases written with
  | @whole cs some digits =>
    obtain ⟨c, rest, rfl⟩ := List.exists_cons_of_ne_nil some
    exact ⟨c, rest, rfl, digits c List.mem_cons_self⟩
  | @fraction ws fs before behind whole digits =>
    obtain ⟨c, rest, rfl⟩ := List.exists_cons_of_ne_nil before
    exact ⟨c, rest ++ '.' :: fs, rfl, whole c List.mem_cons_self⟩

theorem ofPlain_written (written : Written cs n p) : Reads n p (ofPlain cs) := by
  obtain ⟨c, rest, shape, digit⟩ := written_head written
  have unsigned := digit_ne digit
  have plain : ofPlain cs = scan false 0 0 false false cs := by
    subst shape
    unfold ofPlain
    split <;> simp_all
  rw [plain]
  cases written with
  | whole some digits =>
    by_cases fits : Nat.ofDigitChars 10 cs 0 < 2 ^ 96
    · have read := scan_whole false digits [] fits
      rw [List.append_nil] at read
      rw [read, scan, if_pos (by simp [some])]
      exact finish_reads fits (by omega)
    · have read := scan_wide false digits [] (by norm_num) (Nat.le_of_not_lt fits)
      rw [List.append_nil] at read
      rw [read]
      change 2 ^ 96 ≤ roundHalfUp _ (10 ^ 0)
      rw [pow_zero, roundHalfUp_one]
      exact Nat.le_of_not_lt fits
  | @fraction ws fs before behind whole digits =>
    rw [Nat.ofDigitChars_append]
    by_cases fits : Nat.ofDigitChars 10 ws 0 < 2 ^ 96
    · have read := scan_fraction (s := 0) (!ws.isEmpty) digits fits (by omega)
        (fun _ => by omega) (fun none => (behind none).elim)
      rw [Nat.zero_add] at read
      rw [scan_whole _ whole _ fits, scan]
      simpa using read
    · rw [scan_wide _ whole _ (by norm_num) (Nat.le_of_not_lt fits)]
      exact wide_roundHalfUp (Nat.le_of_not_lt fits) (le_ofDigitChars fs digits _) (Nat.le_refl _)

theorem Fits.natural {exact places : Nat} (fits : Fits (exact / 10 ^ places)) :
    ∃ m k, m < 2 ^ 96 ∧ k ≤ places ∧ k ≤ 28 ∧ exact = m * 10 ^ (places - k) := by
  rw [← Int.cast_natCast] at fits
  exact fits.digits

theorem Nearest.value {d : Decimal} (near : Nearest exact places d) (fits : Fits (exact / 10 ^ places)) :
    d.value = exact / 10 ^ places := by
  obtain ⟨m, k, small, within, short, amount⟩ := fits.natural
  have kept : k ≤ d.scale := by
    by_contra fewer
    have wide := near.most k (by omega) within short
    rw [amount, roundHalfUp_mul m (by positivity)] at wide
    omega
  have split : exact = m * 10 ^ (d.scale - k) * 10 ^ (places - d.scale) := by
    have few := near.kept
    rw [amount, Nat.mul_assoc, ← Nat.pow_add]
    congr 2
    omega
  have digits := near.rounded
  rw [split, roundHalfUp_mul _ (by positivity)] at digits
  have power : (10 : ℚ) ^ places = 10 ^ (places - d.scale) * 10 ^ d.scale := by
    rw [← pow_add, Nat.sub_add_cancel near.kept]
  have positive : (10 : ℚ) ^ (places - d.scale) ≠ 0 := by positivity
  rw [value_eq_magnitude, near.positive, digits, split, power]
  push_cast
  simp
  field_simp

theorem Reads.of_fits {read : Except ReadError Decimal} (reads : Reads exact places read)
    (fits : Fits (exact / 10 ^ places)) : ∃ d, read = .ok d ∧ d.value = exact / 10 ^ places := by
  cases read with
  | ok d => exact ⟨d, rfl, Nearest.value reads fits⟩
  | error e =>
    obtain ⟨m, k, small, within, _, amount⟩ := fits.natural
    have power : 10 ^ (places - k) ≤ 10 ^ places := Nat.pow_le_pow_right (by omega) (by omega)
    have below : exact ≤ (2 ^ 96 - 1) * 10 ^ places := by
      rw [amount]
      exact Nat.mul_le_mul (by omega) power
    have narrow : roundHalfUp exact (10 ^ places) < 2 ^ 96 := by
      unfold roundHalfUp
      apply Nat.div_lt_of_lt_mul
      have one : 0 < 10 ^ places := by positivity
      omega
    have wide : 2 ^ 96 ≤ roundHalfUp exact (10 ^ places) := reads
    omega

theorem Nearest.unique {d e : Decimal} (first : Nearest exact places d) (second : Nearest exact places e) :
    d = e := by
  have scales {d e : Decimal} (first : Nearest exact places d) (second : Nearest exact places e) :
      e.scale ≤ d.scale := by
    by_contra more
    have wide := first.most e.scale (by omega) second.kept e.scale_le
    rw [← second.rounded] at wide
    have small : e.magnitude < 2 ^ 96 := e.magnitude_lt
    omega
  have scale : d.scale = e.scale := Nat.le_antisymm (scales second first) (scales first second)
  have magnitude : d.magnitude = e.magnitude := by rw [first.rounded, second.rounded, scale]
  have sign : d.negative = e.negative := first.positive.trans second.positive.symm
  cases d
  cases e
  simp_all

theorem Reads.ok_iff {read : Except ReadError Decimal} (reads : Reads exact places read) {d : Decimal} :
    read = .ok d ↔ Nearest exact places d := by
  cases read with
  | ok e =>
    rw [Except.ok.injEq]
    constructor
    · rintro rfl
      exact reads
    · exact Nearest.unique reads
  | error e =>
    have wide : 2 ^ 96 ≤ roundHalfUp exact (10 ^ places) := reads
    simp only [reduceCtorEq, false_iff]
    intro near
    have power : 10 ^ places = 10 ^ (places - d.scale) * 10 ^ d.scale := by
      rw [← Nat.pow_add, Nat.sub_add_cancel near.kept]
    have fewer := roundHalfUp_antitone exact (d := 10 ^ (places - d.scale)) (k := 10 ^ d.scale)
      (by positivity) (by positivity)
    rw [← power, ← near.rounded] at fewer
    have small : d.magnitude < 2 ^ 96 := d.magnitude_lt
    omega

theorem tail?_plain (read : tail? cs = none) (plain : '_' ∉ cs) : ∀ c ∈ cs, c.isDigit = true := by
  induction cs with
  | nil => simp
  | cons c rest ih =>
    unfold tail? at read
    split at read
    · rename_i allowed
      have other : c ≠ '_' := fun same => plain (same ▸ List.mem_cons_self)
      intro d mem
      rcases List.mem_cons.mp mem with rfl | later
      · exact allowed.resolve_right other
      · exact ih read (fun mem => plain (List.mem_cons_of_mem _ mem)) d later
    · split at read <;> cases read

theorem cut_plain {negative : Bool} {first : Char} {later : List Char} (read : cut negative m s first later = .ok d)
    (plain : '_' ∉ first :: later) : ∀ c ∈ first :: later, c.isDigit = true := by
  unfold cut at read
  split at read
  · cases read
  · rename_i rest
    exact tail?_plain rest plain

theorem scan_plain {negative : Bool} (read : scan negative m s point started cs = .ok d) (plain : '_' ∉ cs) :
    (∀ c ∈ cs, c.isDigit = true) ∨ point = false ∧ ∃ ws fs, cs = ws ++ '.' :: fs ∧
      (∀ c ∈ ws, c.isDigit = true) ∧ ∀ c ∈ fs, c.isDigit = true := by
  induction cs generalizing m s point started with
  | nil => exact .inl (by simp)
  | cons c rest ih =>
    have later : '_' ∉ rest := fun mem => plain (List.mem_cons_of_mem _ mem)
    have other : c ≠ '_' := fun same => plain (same ▸ List.mem_cons_self)
    unfold scan at read
    by_cases digit : c.isDigit = true
    · have next (point' : Bool) (shape : (∀ c ∈ rest, c.isDigit = true) ∨ point' = false ∧
          ∃ ws fs, rest = ws ++ '.' :: fs ∧ (∀ c ∈ ws, c.isDigit = true) ∧
            ∀ c ∈ fs, c.isDigit = true) :
          (∀ x ∈ c :: rest, x.isDigit = true) ∨ point' = false ∧ ∃ ws fs, c :: rest = ws ++ '.' :: fs ∧
            (∀ c ∈ ws, c.isDigit = true) ∧ ∀ c ∈ fs, c.isDigit = true := by
        rcases shape with digits | ⟨unmet, ws, fs, rfl, whole, digits⟩
        · exact .inl (by simpa [digit] using digits)
        · exact .inr ⟨unmet, c :: ws, fs, rfl, by simpa [digit] using whole, digits⟩
      rw [if_pos digit] at read
      dsimp only at read
      generalize (if point = true then s + 1 else s) = s' at read
      split at read
      · cases rest with
        | nil => exact .inl (by simpa using digit)
        | cons first rest =>
          dsimp only at read
          split at read
          · exact next point (.inl (cut_plain read later))
          · exact next point (ih read later)
      · split at read
        · exact .inl (cut_plain read plain)
        · cases read
    · rw [if_neg digit] at read
      split at read
      · rename_i point'
        subst point'
        split at read
        · cases read
        · rename_i unmet
          rcases ih read later with digits | ⟨met, _⟩
          · exact .inr ⟨by simpa using unmet, [], rest, rfl, by simp, digits⟩
          · cases met
      · cases read

-- Neither a separator nor a power of ten.
def Plain (cs : List Char) : Prop := ∀ c ∈ cs, c ≠ '_' ∧ isExponentMark c = false

theorem Plain.unseparated (plain : Plain cs) : '_' ∉ cs := fun mem => (plain _ mem).1 rfl

theorem ofChars_plain (plain : Plain cs) : ofChars cs = ofPlain cs := by
  have unmarked : cs.any isExponentMark = false := by
    rw [List.any_eq_false]
    intro c mem
    simp [(plain c mem).2]
  unfold ofChars
  cases ofPlain cs with
  | ok d => rfl
  | error e => simp [unmarked]

theorem Written.plain (written : Written cs n p) : Plain cs := by
  have digit {c : Char} (digit : c.isDigit = true) : c ≠ '_' ∧ isExponentMark c = false := by
    refine ⟨(digit_ne digit).2.1, ?_⟩
    by_contra mark
    simp only [isExponentMark, Bool.not_eq_false, Bool.or_eq_true, beq_iff_eq] at mark
    rcases mark with rfl | rfl <;> simp at digit
  cases written with
  | whole _ digits => exact fun c mem => digit (digits c mem)
  | fraction _ _ whole digits =>
    intro c mem
    rcases List.mem_append.mp mem with mem | mem
    · exact digit (whole c mem)
    · rcases List.mem_cons.mp mem with rfl | mem
      · decide
      · exact digit (digits c mem)

theorem ofChars_written (written : Written cs n p) : Reads n p (ofChars cs) := by
  rw [ofChars_plain written.plain]
  exact ofPlain_written written

-- Of all texts without a sign, a separator or a power of ten, and with a digit on each side of a
-- point, those are read that are written as numbers.
theorem written_of_read (read : ofPlain cs = .ok d) (plain : Plain cs)
    (unsigned : cs.head? ≠ some '-' ∧ cs.head? ≠ some '+') (before : cs.head? ≠ some '.')
    (behind : cs.getLast? ≠ some '.') : ∃ n p, Written cs n p := by
  have scanned : cs ≠ [] ∧ scan false 0 0 false false cs = .ok d := by
    unfold ofPlain at read
    split at read
    · cases read
    · simp at unsigned
    · simp at unsigned
    · exact ⟨by assumption, read⟩
  rcases scan_plain scanned.2 plain.unseparated with digits | ⟨_, ws, fs, rfl, whole, digits⟩
  · exact ⟨_, _, .whole scanned.1 digits⟩
  · have first : ws ≠ [] := by
      rintro rfl
      simp at before
    have last : fs ≠ [] := by
      rintro rfl
      simp at behind
    exact ⟨_, _, .fraction first last whole digits⟩

end Treasury.Decimal
