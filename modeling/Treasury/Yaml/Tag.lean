import Treasury.Text.Percent
import Treasury.Yaml.Place

namespace Treasury.Yaml

structure Tag where
  handle : String
  suffix : String
deriving DecidableEq, Repr

namespace Tag

-- The characters of an address. Three more are allowed where the end is marked.
def isAddressChar (marked : Bool) (c : Char) : Bool :=
  isWord c || ";/?:@&=+$.%!~*\x27()".toList.contains c || (marked && ",[]".toList.contains c)

def address? (marked : Bool) (p : Place) : Option (String × Place) :=
  let (cs, p) := p.takeWhile (isAddressChar marked)
  if Text.Percent.isComplete cs then (Text.Percent.decoded? cs).map fun text => (text, p) else none

def readHandle (p : Place) : List Char × Place :=
  let (word, p) := p.next.takeWhile isWord
  if p.head? = some '!' then ('!' :: word ++ ['!'], p.next) else ('!' :: word, p)

-- A tag from its exclamation mark on: a whole address in angle brackets, a handle with a suffix,
-- or a suffix alone.
def read (p : Place) : Option (Tag × Place) :=
  if (p.rest.drop 1).head? = some '<' then
    (address? true (p.skip 2)).bind fun (suffix, p) =>
      if suffix ≠ "" ∧ p.head? = some '>' then some (⟨"", suffix⟩, p.next) else none
  else
    let (cs, after) := readHandle p
    if 1 < cs.length ∧ cs.getLast? = some '!' then
      (address? false after).bind fun (suffix, p) =>
        if suffix = "" then none else some (⟨.ofList cs, suffix⟩, p)
    else
      (address? false after).map fun (suffix, p) =>
        let suffix := .ofList cs.tail ++ suffix
        (if suffix = "" then ⟨"", "!"⟩ else ⟨"!", suffix⟩, p)

-- A tag in front of a value: inside of brackets a comma may touch it.
def ofPlace? (inFlow : Bool) (p : Place) : Option (Tag × Place) :=
  (read p).filter fun (_, p) => (inFlow && p.head? == some ',') || p.endsAt 0

def standardHandles : List (String × String) := [("!", "!"), ("!!", "tag:yaml.org,2002:")]

def resolve? (handles : List (String × String)) (t : Tag) : Option String :=
  if t.handle = "" then some t.suffix
  else (handles.lookup t.handle).map (· ++ t.suffix)

end Tag

def anchorName? (p : Place) : Option (String × Place) :=
  let (name, p) := p.next.takeWhile isWord
  if name ≠ [] ∧ (p.endsAt 0 ∨ p.head?.any ("?:,]\x7d%@".toList ++ [Char.ofNat 96]).contains) then
    some (.ofList name, p)
  else none

inductive Directive where
  | version (major minor : Nat)
  | handle (name address : String)
deriving DecidableEq, Repr

namespace Directive

def number? (p : Place) : Option (Nat × Place) :=
  let (digits, p) := p.takeWhile Char.isDigit
  if digits.length ≤ 9 then (Text.natural? digits).map fun n => (n, p) else none

def version? (p : Place) : Option (Directive × Place) := do
  let (major, p) ← number? p
  if p.head? ≠ some '.' then none
  else
    let (minor, p) ← number? p.next
    return (.version major minor, p)

def handle? (p : Place) : Option (Directive × Place) := do
  if p.head? ≠ some '!' then none
  else
    let (name, p) := Tag.readHandle p
    if (name.getLast? ≠ some '!') ∨ !p.head?.any isGap then none
    else
      let (address, p) ← Tag.address? true p.skipGaps
      if address = "" ∨ !p.endsAt 0 then none
      else return (.handle (.ofList name) address, p)

def ofPlace? (p : Place) : Option (Directive × Place) := do
  let (name, p) := p.next.takeWhile isWord
  if !p.endsAt 0 then none
  else
    let p := p.skipGaps
    let (directive, p) ←
      if name = "YAML".toList then version? p
      else if name = "TAG".toList then handle? p
      else none
    let p := p.skipGaps.skipComment
    if p.atLineEnd then return (directive, p.nextLine) else none

end Directive
end Treasury.Yaml
