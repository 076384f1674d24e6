import Treasury.Ledger.Entry
import Treasury.Proofs.Identifier.Spelling

namespace Treasury

namespace Text

def isLowerHex (c : Char) : Bool := c.isDigit || ('a' ≤ c && c ≤ 'f')

theorem digitChar_of_isLowerHex : ∀ c : Char, isLowerHex c = true → ∃ i < 16, c = Nat.digitChar i :=
  forall_char (by decide) fun c late lower => by
    have above {d : Char} (early : d.toNat < 128) : ¬ c ≤ d := not_le_of_late late early
    simp only [isLowerHex, Char.isDigit, Bool.or_eq_true, Bool.and_eq_true, decide_eq_true_eq] at lower
    rcases lower with digit | letter
    · exact (above (d := '9') (by decide) digit.2).elim
    · exact (above (d := 'f') (by decide) letter.2).elim

theorem isLowerHex_hexFixed (width n : Nat) : (hexFixed width n).all isLowerHex = true := by
  have digits : ∀ i < 16, isLowerHex (Nat.digitChar i) = true := by decide
  induction width generalizing n with
  | zero => rfl
  | succ width ih =>
    rw [hexFixed, List.all_append, ih, List.all_cons, hexChar, digits _ (Nat.mod_lt n (by omega))]
    rfl

theorem hexFixed_of_all {cs : List Char} (lower : cs.all isLowerHex = true) :
    ∃ n < 16 ^ cs.length, cs = hexFixed cs.length n := by
  induction cs using List.reverseRecOn with
  | nil => exact ⟨0, by decide, rfl⟩
  | append_singleton cs c ih =>
    simp only [List.all_append, List.all_cons, List.all_nil, Bool.and_true, Bool.and_eq_true] at lower
    obtain ⟨n, small, written⟩ := ih lower.1
    obtain ⟨i, digit, rfl⟩ := digitChar_of_isLowerHex c lower.2
    have front : (16 * n + i) / 16 = n := by omega
    have last : (16 * n + i) % 16 = i := by omega
    rw [List.length_append, List.length_singleton]
    refine ⟨16 * n + i, by rw [pow_succ]; omega, ?_⟩
    rw [hexFixed, hexChar, front, last, ← written]

end Text

theorem WalletId.ofText?_spelled {r : String} {id : WalletId} :
    ofText? r = some id ↔
      r.toList.map Char.toLower ∈ Uuid.spellings (Text.hexFixed 32 id.uuid.bits) := by
  rw [ofText?, Option.map_eq_some_iff, ← Uuid.ofChars?_spelled]
  constructor
  · rintro ⟨u, read, rfl⟩
    exact read
  · exact fun read => ⟨id.uuid, read, rfl⟩

namespace Account

theorem ofParts?_wallet : ofParts? 1 r = (WalletId.ofText? r).map .wallet := rfl

theorem ofParts?_external : ofParts? 4 r = some (.external r) := rfl

theorem ofParts?_parts (a : Account) : ofParts? a.kindId a.reference = some a := by
  cases a with
  | wallet id =>
    change (WalletId.ofText? (toString id)).map wallet = _
    rw [WalletId.ofText?_toString]
    rfl
  | fees => rfl
  | rewards => rfl
  | external r => rfl

theorem parts_inj {a b : Account} (kind : a.kindId = b.kindId) (reference : a.reference = b.reference) :
    a = b := by
  have read := a.ofParts?_parts
  rw [kind, reference, ofParts?_parts] at read
  exact (Option.some.inj read).symm

-- The first letter tells the kind, and what is behind the colon the reference.
theorem display_inj {a b : Account} (same : a.display = b.display) : a = b := by
  have letter : a.display.toList.head? = b.display.toList.head? := by rw [same]
  have kind : a.kindId = b.kindId := by
    revert letter
    cases a <;> cases b <;> simp [display, kindId]
  refine parts_inj kind ?_
  cases a <;> cases b <;> simp_all [display, reference, kindId]

theorem ofParts?_external_iff {r : String} {a : Account} :
    ofParts? 4 r = some a ↔ a.kindId = 4 ∧ a.reference = r := by
  rw [ofParts?_external, Option.some.injEq]
  constructor
  · rintro rfl
    exact ⟨rfl, rfl⟩
  · rintro ⟨kind, same⟩
    exact parts_inj kind.symm same.symm

-- A wallet is read from any spelling of its digits and written in one of them.
theorem ofParts?_wallet_iff {r : String} {a : Account} : ofParts? 1 r = some a ↔ a.kindId = 1 ∧
    ∃ digits : List Char, digits.length = 32 ∧ digits.all Text.isLowerHex = true ∧
      r.toList.map Char.toLower ∈ Uuid.spellings digits ∧
      a.reference = .ofList (Uuid.hyphenated digits) := by
  rw [ofParts?_wallet, Option.map_eq_some_iff]
  constructor
  · rintro ⟨id, read, rfl⟩
    exact ⟨rfl, Text.hexFixed 32 id.uuid.bits, Text.hexFixed_length _ _, Text.isLowerHex_hexFixed _ _,
      WalletId.ofText?_spelled.mp read, rfl⟩
  · rintro ⟨kind, digits, full, lower, spelled, written⟩
    obtain ⟨n, small, same⟩ := Text.hexFixed_of_all lower
    rw [full] at small same
    have bits : n < Nat.pow 2 128 := Nat.lt_of_lt_of_eq small (by decide)
    refine ⟨⟨n, bits⟩, WalletId.ofText?_spelled.mpr ?_, parts_inj kind.symm ?_⟩
    · exact same ▸ spelled
    · rw [written, same]
      rfl

theorem columns_faithful :
    (∀ a, ofParts? a.kindId a.reference = some a) ∧
      (∀ a b : Account, a = b ↔ a.kindId = b.kindId ∧ a.reference = b.reference) ∧
      (∀ a b : Account, a = b ↔ a.display = b.display) ∧
      (∀ r a, ofParts? 4 r = some a ↔ a.kindId = 4 ∧ a.reference = r) ∧
      ∀ r a, ofParts? 1 r = some a ↔ a.kindId = 1 ∧
        ∃ digits : List Char, digits.length = 32 ∧ digits.all Text.isLowerHex = true ∧
          r.toList.map Char.toLower ∈ Uuid.spellings digits ∧
          a.reference = .ofList (Uuid.hyphenated digits) := by
  refine ⟨ofParts?_parts, fun a b => ⟨?_, fun same => parts_inj same.1 same.2⟩,
    fun a b => ⟨congrArg display, display_inj⟩, fun _ _ => ofParts?_external_iff,
    fun _ _ => ofParts?_wallet_iff⟩
  rintro rfl
  exact ⟨rfl, rfl⟩

end Account
end Treasury
