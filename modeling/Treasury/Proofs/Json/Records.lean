import Treasury.Json.Record
import Treasury.Proofs.Decimal.Writing
import Treasury.Proofs.Json.Written

namespace Treasury.Json

-- Written in a form that reading takes, in range and within so many levels.
structure Fits (depth : Nat) (j : Json) : Prop where
  formed : j.Formed
  holdable : j.isHoldable depth = true

section Fits

variable {depth : Nat}

@[simp]
theorem fits_null : Fits depth .null := ⟨.null, by simp [isHoldable]⟩

@[simp]
theorem fits_text (s : String) : Fits depth (.text s) := ⟨.text, by simp [isHoldable]⟩

@[simp]
theorem fits_ofDecimal (d : Decimal) : Fits depth (ofDecimal d) := fits_text d.toText

theorem fits_ofInt {n : Int} (low : Int64.minValue.toInt ≤ n) (high : n ≤ Int64.maxValue.toInt) :
    Fits depth (ofInt n) :=
  have read := Number.int?_ofInt low (Int.lt_of_le_of_lt high (by decide))
  ⟨.number (Number.formed_ofInt n), by simp [ofInt, isHoldable, read]⟩

theorem haveHoldable_iff (members : List (String × Json)) :
    haveHoldable depth members = true ↔ ∀ m ∈ members, m.2.isHoldable depth = true := by
  induction members with
  | nil => simp [haveHoldable]
  | cons member members ih => simp [haveHoldable, ih]

@[simp]
theorem fits_object {members : List (String × Json)} :
    Fits (depth + 1) (.object members) ↔ members.Forall (·.2.Fits depth) := by
  rw [List.forall_iff_forall_mem]
  have levels : (Json.object members).isHoldable (depth + 1) = haveHoldable depth members := by
    simp [isHoldable]
  constructor
  · rintro ⟨formed, holdable⟩ m mem
    rw [levels, haveHoldable_iff] at holdable
    cases formed with
    | object all => exact ⟨all m mem, holdable m mem⟩
  · intro all
    exact ⟨.object fun m mem => (all m mem).formed,
      levels.trans ((haveHoldable_iff members).2 fun m mem => (all m mem).holdable)⟩

@[simp]
theorem fits_option {write : α → Json} {a : Option α} (all : ∀ x, Fits depth (write x)) :
    Fits depth (option write a) := by
  cases a with
  | none => exact fits_null
  | some x => exact all x

-- What is written in this way and read as a value is read as that value from its text.
theorem Fits.read {read : Json → Option β} {j : Json} (fits : Fits depth j) (back : read j = some b) :
    (ofText? j.toText).bind read = some b := by
  rw [ofText?_toText fits.formed, Option.bind_some, back]

end Fits

@[simp]
theorem forall_whenSome {P : String × Json → Prop} {write : α → Json} {a : Option α} :
    (whenSome key write a).Forall P ↔ ∀ x ∈ a, P (key, write x) := by
  cases a <;> simp [whenSome]

@[simp]
theorem occurrences_nil : occurrences name [] = 0 := rfl

@[simp]
theorem occurrences_cons (member : String × Json) (members : List (String × Json)) :
    occurrences name (member :: members) =
      (if member.1 = name then 1 else 0) + occurrences name members := by
  by_cases same : member.1 = name <;> simp [occurrences, same, Nat.add_comm]

@[simp]
theorem occurrences_append (before after : List (String × Json)) :
    occurrences name (before ++ after) = occurrences name before + occurrences name after := by
  simp [occurrences]

@[simp]
theorem occurrences_whenSome {write : α → Json} {a : Option α} :
    occurrences name (whenSome key write a) = if key = name ∧ a.isSome then 1 else 0 := by
  cases a <;> simp [whenSome]

@[simp]
theorem fields?_named {names : List String} {members : List (String × Json)}
    (apart : ∀ name ∈ names, occurrences name members ≤ 1) :
    Shape.fields? names (.named members) = some ⟨members, false⟩ := by
  simpa [Shape.fields?] using apart

@[simp]
theorem fields?_object (names : List String) (members : List (String × Json)) :
    fields? names (.object members) = Shape.fields? names (.named members) := rfl

@[simp]
theorem present_le_one (present : Prop) [Decidable present] : (if present then 1 else 0) ≤ 1 := by
  split <;> omega

theorem Fits.tagged?_eq {j : Json} (fits : j.Fits depthLimit) (tag : String) :
    j.tagged? 0 tag = j.taggedBy? text? tag :=
  if_pos fits.holdable

theorem taggedBy?_cons {members : List (String × Json)} (apart : ∀ m ∈ members, m.1 ≠ tag) (j : Json)
    (read : Json → Option String) :
    taggedBy? read tag (.object ((tag, j) :: members)) = (read j).map (·, .named members) := by
  have once : occurrences tag members = 0 := by
    simpa [occurrences] using apart
  have others : members.filter (·.1 != tag) = members := by
    simpa using apart
  simp [taggedBy?, once, others, Option.map_eq_bind]

namespace Fields

section Members

variable {name : String} {listed : Bool} {members : List (String × Json)}

@[simp]
theorem get?_nil : get? ⟨[], listed⟩ name = none := rfl

@[simp]
theorem get?_cons (value : Json) : get? ⟨(key, value) :: members, listed⟩ name =
    if name = key then some value else get? ⟨members, listed⟩ name := by
  by_cases same : name = key
  · simp [get?, same]
  · simp [get?, List.lookup_cons, beq_false_of_ne same, same]

@[simp]
theorem get?_whenSome (write : α → Json) (a : Option α) : get? ⟨whenSome key write a, listed⟩ name =
    if name = key then a.map write else none := by
  cases a <;> simp [whenSome]

@[simp]
theorem get?_whenSome_append (write : α → Json) (a : Option α) :
    get? ⟨whenSome key write a ++ members, listed⟩ name =
      if name = key then (a.map write).or (get? ⟨members, listed⟩ name)
      else get? ⟨members, listed⟩ name := by
  cases a <;> simp [whenSome]

end Members

def absent? (read : Json → Option α) (found : Option Json) : Option (Option α) :=
  found.elim (some none) (nullable? read)

@[simp]
theorem optional_eq (f : Fields) (name : String) (read : Json → Option α) :
    f.optional name read = absent? read (f.get? name) := by
  unfold optional absent?
  cases f.get? name <;> rfl

@[simp]
theorem nullableField_eq (members : List (String × Json)) (name : String) (read : Json → Option α) :
    nullableField ⟨members, false⟩ name read = absent? read (get? ⟨members, false⟩ name) := by
  unfold nullableField absent?
  cases get? ⟨members, false⟩ name <;> rfl

end Fields

-- Reading takes back what was written, to the value that `g` makes of it, and null is not written.
structure Returns (read : Json → Option β) (write : α → Json) (g : α → β) : Prop where
  solid : ∀ x, write x ≠ .null
  back : ∀ x, read (write x) = some (g x)

namespace Returns

variable {read : Json → Option β} {write : α → Json} {g : α → β} (returns : Returns read write g)
include returns

theorem nullable (x : α) : nullable? read (write x) = some (some (g x)) := by
  unfold nullable?
  split
  · exact absurd ‹_› (returns.solid x)
  · rw [returns.back, Option.map_some]

theorem absent (a : Option α) : Fields.absent? read (a.map write) = some (a.map g) := by
  cases a with
  | none => rfl
  | some x => simp [Fields.absent?, returns.nullable]

theorem option (a : Option α) : Fields.absent? read (some (option write a)) = some (a.map g) := by
  cases a with
  | none => rfl
  | some x => simp [Fields.absent?, Json.option, returns.nullable]

end Returns

theorem texts : Returns text? .text id := ⟨nofun, fun _ => rfl⟩

theorem decimals : Returns decimal? ofDecimal Decimal.plain :=
  ⟨fun _ => nofun, Decimal.ofText?_toText⟩

theorem intBetween?_ofInt {n low high : Int} (least : Int64.minValue.toInt ≤ n)
    (most : n ≤ Int64.maxValue.toInt) (within : low ≤ n ∧ n ≤ high) :
    intBetween? low high (ofInt n) = some n := by
  have read := Number.int?_ofInt least (Int.lt_of_le_of_lt most (by decide))
  rw [intBetween?, ofInt, int?, read, Option.filter_some]
  simp [within]

theorem int64?_ofInt {n : Int} (least : Int64.minValue.toInt ≤ n) (most : n ≤ Int64.maxValue.toInt) :
    int64? (ofInt n) = some n :=
  intBetween?_ofInt least most ⟨least, most⟩

theorem uint32_int64 (n : UInt32) :
    Int64.minValue.toInt ≤ (n.toNat : Int) ∧ (n.toNat : Int) ≤ Int64.maxValue.toInt := by
  have least : Int64.minValue.toInt = -9223372036854775808 := rfl
  have most : Int64.maxValue.toInt = 9223372036854775807 := rfl
  have small := n.toNat_lt
  omega

theorem uint32?_ofNat (n : UInt32) : uint32? (ofNat n.toNat) = some n := by
  have small := n.toNat_lt
  have size : (UInt32.size : Int) = 4294967296 := rfl
  have read : intBetween? 0 (UInt32.size - 1) (ofNat n.toNat) = some (n.toNat : Int) :=
    intBetween?_ofInt (uint32_int64 n).1 (uint32_int64 n).2 (by omega)
  rw [uint32?, read]
  simp

end Treasury.Json
