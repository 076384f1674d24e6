import Treasury.Json.Basic

namespace Treasury.Json

def text? : Json → Option String
  | .text s => some s
  | _ => none

def bool? : Json → Option Bool
  | .bool b => some b
  | _ => none

def int? : Json → Option Int
  | .number n => n.int?
  | _ => none

def intBetween? (low high : Int) (j : Json) : Option Int :=
  j.int?.filter fun n => low ≤ n ∧ n ≤ high

def int64? : Json → Option Int := intBetween? Int64.minValue.toInt Int64.maxValue.toInt
def int16? : Json → Option Int := intBetween? Int16.minValue.toInt Int16.maxValue.toInt
def nat64? (j : Json) : Option Nat := (intBetween? 0 (UInt64.size - 1) j).map Int.toNat
def uint32? (j : Json) : Option UInt32 := (intBetween? 0 (UInt32.size - 1) j).map (UInt32.ofNat ·.toNat)

-- A decimal is written as its text or as a number.
def decimal? : Json → Option Decimal
  | .text s => Decimal.ofText? s
  | .number n => n.toDecimal?
  | _ => none

def array? : Json → Option (List Json)
  | .array items => some items
  | _ => none

def listOf? (read : Json → Option α) (j : Json) : Option (List α) :=
  j.array?.bind fun items => items.mapM read

def nullable? (read : Json → Option α) : Json → Option (Option α)
  | .null => some none
  | j => (read j).map some

-- A name out of a fixed choice, bare or as the only member of an object, with null.
def name? : Json → Option String
  | .text s => some s
  | .object [(key, .null)] => some key
  | _ => none

def choice? (read : String → Option α) (j : Json) : Option α := j.name?.bind read

-- The same inside a held record, where an empty object does for null.
def heldName? : Json → Option String
  | .object [(key, .object [])] => some key
  | j => j.name?

def heldChoice? (read : String → Option α) (j : Json) : Option α := j.heldName?.bind read

def depthLimit : Nat := 127

mutual

-- Numbers are in range, and there are at most `depth` levels.
def isHoldable : Nat → Json → Bool
  | _, .number n => n.int?.isSome || n.binary?.isSome
  | depth, .array items => 0 < depth && areHoldable (depth - 1) items
  | depth, .object members => 0 < depth && haveHoldable (depth - 1) members
  | _, _ => true

def areHoldable : Nat → List Json → Bool
  | _, [] => true
  | depth, item :: rest => isHoldable depth item && areHoldable depth rest

def haveHoldable : Nat → List (String × Json) → Bool
  | _, [] => true
  | depth, (_, value) :: rest => isHoldable depth value && haveHoldable depth rest

end

-- The fields of a record, by name. `listed` says that they came as a list.
structure Fields where
  members : List (String × Json)
  listed : Bool

-- Either form of a record before its names are known.
inductive Shape where
  | named (members : List (String × Json))
  | listed (items : List Json)

def shape? : Json → Option Shape
  | .object members => some (.named members)
  | .array items => some (.listed items)
  | _ => none

def occurrences (name : String) (members : List (String × Json)) : Nat :=
  (members.filter (·.1 == name)).length

def Shape.fields? (names : List String) : Shape → Option Fields
  | .named members =>
    if names.all fun name => occurrences name members ≤ 1 then some ⟨members, false⟩ else none
  | .listed items =>
    if items.length ≤ names.length then some ⟨names.zip items, true⟩ else none

def fields? (names : List String) (j : Json) : Option Fields :=
  j.shape?.bind (Shape.fields? names)

def taggedBy? (read : Json → Option String) (tag : String) : Json → Option (String × Shape)
  | .object members =>
    if occurrences tag members = 1 then do
      let variant ← (members.lookup tag).bind read
      return (variant, .named (members.filter (·.1 != tag)))
    else none
  | .array (first :: items) => (read first).map fun variant => (variant, .listed items)
  | _ => none

def tagged? (level : Nat) (tag : String) (j : Json) : Option (String × Shape) :=
  if j.isHoldable (depthLimit - level) then j.taggedBy? text? tag else none

def ordinal? (names : List String) : Json → Option String
  | .number n => n.int?.bind fun i => if 0 ≤ i then names[i.toNat]? else none
  | j => j.text?

-- A tagged record inside a held one. Its variant may also be given by its place.
def heldTagged? (variants : List String) (tag : String) (j : Json) : Option (String × Shape) :=
  j.taggedBy? (ordinal? variants) tag

namespace Fields

def get? (f : Fields) (name : String) : Option Json := f.members.lookup name

def required (f : Fields) (name : String) (read : Json → Option α) : Option α :=
  (f.get? name).bind read

-- May be absent or null.
def optional (f : Fields) (name : String) (read : Json → Option α) : Option (Option α) :=
  match f.get? name with
  | none => some none
  | some j => nullable? read j

-- The same, except that a list of fields must reach as far as this one.
def nullableField (f : Fields) (name : String) (read : Json → Option α) : Option (Option α) :=
  match f.get? name with
  | none => if f.listed then none else some none
  | some j => nullable? read j

-- May be absent, then it is `default`; null is no value of it.
def defaulted (f : Fields) (name : String) (default : α) (read : Json → Option α) : Option α :=
  match f.get? name with
  | none => some default
  | some j => read j

end Fields

end Treasury.Json
