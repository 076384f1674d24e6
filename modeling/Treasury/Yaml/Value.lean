import Treasury.Decimal.Binary
import Treasury.Yaml.Node

namespace Treasury

-- A value and what its references refer to.
structure Yaml where
  named : List Yaml.Named
  node : Yaml.Node

namespace Yaml

def ofText? (s : String) : Option Yaml := (Document.ofText? s).map fun d => ⟨d.named, d.root⟩

def node? (y : Yaml) : Option Node :=
  match y.node with
  | .reference number => Document.find? y.named number
  | node => some node

def text? (y : Yaml) : Option String :=
  match y.node? with
  | some (.scalar _ _ content) => some content
  | _ => none

def coreTag (name : String) : String := "tag:yaml.org,2002:" ++ name

-- The characters of a value that need not be a text: a plain one, or literal lines with the tag of
-- what is asked for.
def untyped? (name : String) (y : Yaml) : Option (List Char) :=
  match y.node? with
  | some (.scalar .plain _ content) => some content.toList
  | some (.scalar .literal (some tag) content) =>
    if tag = coreTag name then some content.toList else none
  | _ => none

def isNull (content : String) : Bool := ["~", "null", "Null", "NULL"].contains content

-- Nothing, or a value. What is tagged as nothing must be nothing, and that in words.
def nullable? (read : Yaml → Option α) (y : Yaml) : Option (Option α) :=
  match y.node? with
  | some (.scalar .plain tag content) =>
    if tag = some (coreTag "null") then (if isNull content then some none else none)
    else if tag = none ∧ (content = "" ∨ isNull content) then some none
    else (read y).map some
  | _ => (read y).map some

def truth? (content : String) : Option Bool :=
  if ["true", "True", "TRUE"].contains content then some true
  else if ["false", "False", "FALSE"].contains content then some false
  else none

def bool? (y : Yaml) : Option Bool := (y.untyped? "bool").bind fun cs => truth? (.ofList cs)

def digitsIn? (base : Nat) (cs : List Char) : Option Nat :=
  if cs = [] then none
  else
    (cs.mapM Text.hexDigit?).bind fun digits =>
      if digits.all (· < base) then some (digits.foldl (fun n d => base * n + d) 0) else none

def signed (cs : List Char) : Bool × List Char :=
  match cs with
  | '-' :: rest => (true, rest)
  | '+' :: rest => (false, rest)
  | rest => (false, rest)

-- Digits with a needless zero in front are no number.
def needlessZero (cs : List Char) : Bool :=
  let digits := (signed cs).2
  1 < digits.length && digits.head? == some '0' && digits.all Char.isDigit

-- Digits without a sign, of the base that their first two characters tell.
def magnitude? (cs : List Char) : Option Nat :=
  match cs with
  | '0' :: 'x' :: rest => digitsIn? 16 rest
  | '0' :: 'o' :: rest => digitsIn? 8 rest
  | '0' :: 'b' :: rest => digitsIn? 2 rest
  | _ => if needlessZero cs then none else Text.natural? cs

def natural? (cs : List Char) : Option Nat :=
  magnitude? (if cs.head? = some '+' then cs.tail else cs)

def natBelow? (bound : Nat) (y : Yaml) : Option Nat :=
  ((y.untyped? "int").bind natural?).filter (· < bound)

def whole? (cs : List Char) : Option (Bool × Nat) :=
  match cs with
  | '-' :: rest => (magnitude? rest).map fun n => (true, n)
  | _ => (natural? cs).map fun n => (false, n)

-- A whole number is exact up to 64 binary digits and refused beyond.
def wholeDecimal? : Bool × Nat → Option Decimal
  | (negative, n) =>
    if n < (if negative then Nat.pow 2 63 + 1 else UInt64.size) then Decimal.make? (negative && n != 0) n 0
    else none

-- A number in decimal digits with a point or an exponent: its digits and the power of ten.
structure Written where
  negative : Bool
  digits : Nat
  power : Int

def power? (cs : List Char) : Option Int :=
  match cs with
  | [] => some 0
  | c :: rest =>
    if c = 'e' ∨ c = 'E' then
      let (minus, digits) := signed rest
      (Text.natural? digits).map fun n => if minus then -(n : Int) else n
    else none

def written? (cs : List Char) : Option Written := do
  let (negative, cs) := signed cs
  let whole := cs.takeWhile Char.isDigit
  let rest := cs.drop whole.length
  let (fraction, rest) := match rest with
    | '.' :: after => (after.takeWhile Char.isDigit, after.dropWhile Char.isDigit)
    | other => ([], other)
  if whole = [] ∧ fraction = [] then none
  else
    let power ← power? rest
    return ⟨negative, Nat.ofDigitChars 10 (whole ++ fraction) 0, power - fraction.length⟩

-- The nearest binary number; nothing when it is too large.
def Written.binary? (w : Written) : Option Binary :=
  if w.digits = 0 then Binary.nearest? 0 1
  else if 400 < w.power then none
  else if 0 ≤ w.power then Binary.nearest? (w.digits * Nat.pow 10 w.power.toNat) 1
  else if w.power < -20000 then Binary.nearest? 0 1
  else Binary.nearest? w.digits (Nat.pow 10 (-w.power).toNat)

-- A number with a point or an exponent is rounded once to a binary one. Within the result, nothing
-- stands for one that is too large for a decimal.
def rounded? (cs : List Char) : Option (Option Decimal) :=
  (written? cs).bind fun w => w.binary?.map (Binary.toDecimal? w.negative)

-- A plain value that looks like a number is read as one, and every other text as a decimal.
def untaggedDecimal? (content : String) : Option Decimal :=
  let cs := content.toList
  if content = "" ∨ isNull content ∨ (truth? content).isSome then none
  else
    match whole? cs with
    | some n => wholeDecimal? n
    | none =>
      match if needlessZero cs then none else rounded? cs with
      | some d => d
      | none => Decimal.ofText? content

-- Tags of the program's own are refused.
def decimal? (y : Yaml) : Option Decimal :=
  match y.node? with
  | some (.scalar .plain none content) => untaggedDecimal? content
  | some (.scalar _ none content) => Decimal.ofText? content
  | some (.scalar _ (some tag) content) =>
    if tag = coreTag "int" then (whole? content.toList).bind wholeDecimal?
    else if tag = coreTag "float" then (rounded? content.toList).bind id
    else if tag = coreTag "bool" ∨ tag = coreTag "null" ∨ tag.front? = some '!' then none
    else Decimal.ofText? content
  | _ => none

abbrev Fields := List (String × Yaml)

-- The members of a mapping whose names are asked for. Each name is a text and may be given once.
def members? (names : List String) (named : List Named) : List (Node × Node) → Option Fields
  | [] => some []
  | (key, value) :: rest => do
    let fields ← members? names named rest
    let name ← text? ⟨named, key⟩
    if !names.contains name then return fields
    else if (fields.lookup name).isSome then none
    else return (name, ⟨named, value⟩) :: fields

-- A record is a mapping, or a list of its values in the order of the names. Nothing at all is a
-- record without members.
def fields? (names : List String) (y : Yaml) : Option Fields :=
  match y.node? with
  | some (.mapping members) => members? names y.named members
  | some (.sequence items) =>
    if items.length ≤ names.length then some (names.zip (items.map fun node => ⟨y.named, node⟩))
    else none
  | some (.scalar .plain _ "") => some []
  | _ => none

def required (f : Fields) (name : String) (read : Yaml → Option α) : Option α :=
  (f.lookup name).bind read

def defaulted (f : Fields) (name : String) (default : α) (read : Yaml → Option α) : Option α :=
  (f.lookup name).elim (some default) read

end Yaml
end Treasury
