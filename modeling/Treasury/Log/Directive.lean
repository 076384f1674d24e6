import Treasury.Log.Event
import Treasury.Text.Alphanumeric

namespace Treasury.Log

structure Directive where
  target : Option String
  span : Option String
  -- Names of fields, some with the value that is asked for.
  fields : List (String × Option String)
  -- The rank of the most detailed level that passes, zero when none does.
  rank : Nat
deriving DecidableEq, Repr

namespace Directive

inductive Refusal where
  | shape
  | level
deriving DecidableEq, Repr

def Refusal.message : Refusal → String
  | .shape => "invalid filter directive"
  | .level => "error parsing level filter: expected one of \"off\", \"error\", \"warn\", " ++
      "\"info\", \"debug\", \"trace\", or a number 0-5"

def rank? (s : List Char) : Option Nat :=
  let name := (String.ofList s).toUpper
  if name = "OFF" then some 0
  else
    match Level.ofName? name with
    | some level => some level.rank
    | none => (Text.natural? (if s.head? = some '+' then s.tail else s)).filter (· ≤ 5)

-- A text and the same text with its outer blanks, read in step: where a piece ends is told by the
-- first, what the piece holds is taken from the second.
structure Cursor where
  seen : List Char
  taken : List Char

namespace Cursor

def ofText (s : List Char) : Cursor := ⟨Text.trim s, s⟩

def next (c : Cursor) : Cursor := ⟨c.seen.tail, c.taken.tail⟩

def split (c : Cursor) (stops : List Char) : String × Cursor :=
  let n := (c.seen.takeWhile (!stops.contains ·)).length
  (.ofList (c.taken.take n), ⟨c.seen.drop n, c.taken.drop n⟩)

end Cursor

-- The level behind an equals sign; every level passes when none is written.
def readLevel (d : Directive) (c : Cursor) : Except Refusal Directive :=
  if c.taken = [] then .ok d
  else
    match rank? c.taken with
    | some rank => .ok { d with rank }
    | none => .error .level

def readEnd (d : Directive) (c : Cursor) : Except Refusal Directive :=
  match c.seen with
  | [] => .ok d
  | '=' :: _ => d.readLevel c.next
  | _ => .error .shape

def readField (d : Directive) (c : Cursor) : Except Refusal Directive :=
  let (field, rest) := c.split ['\x7d']
  match rest.seen, field.splitOn "=" with
  | '\x7d' :: ']' :: _, name :: value =>
    if field = "" then .error .shape
    else readEnd { d with fields := [(name, value.head?)] } rest.next.next
  | _, _ => .error .shape

def readSpan (d : Directive) (c : Cursor) : Except Refusal Directive :=
  let (span, rest) := c.split [']', '\x7b']
  match rest.seen with
  | ']' :: _ => readEnd { d with span := some span } rest.next
  | '\x7b' :: _ => readField { d with span := if span = "" then none else some span } rest.next
  | _ => .error .shape

-- A directive begins with a letter, a digit or one of three marks.
def begins (c : Char) : Bool := ['-', ':', '_'].contains c || Text.Alphanumeric.holds c

-- A bare text is a level if it can be; as a target it lets every level pass.
def ofText (s : String) : Except Refusal Directive :=
  let c := Cursor.ofText s.toList
  let all : Directive := ⟨none, none, [], Level.trace.rank⟩
  match c.seen with
  | [] => .error .shape
  | '[' :: _ => all.readSpan c.next
  | first :: _ =>
    if !begins first then .error .shape
    else
      let (target, rest) := c.split ['=', '[']
      match rest.seen with
      | '=' :: _ => readLevel { all with target := some target } rest.next
      | '[' :: _ => readSpan { all with target := some target } rest.next
      | _ =>
        match rank? c.taken with
        | some rank => .ok { all with rank }
        | none => .ok { all with target := some s }

-- Events stand in no span, and the values of their fields are not looked at.
def concernsEvents (d : Directive) : Bool := d.span.isNone && d.fields.all (·.2.isNone)

def names (d : Directive) : List String := d.fields.map (·.1)

def covers (d : Directive) (e : Event) : Bool :=
  d.concernsEvents &&
    (match d.target with
      | none => true
      | some own => own.toList.isPrefixOf e.target.toList) &&
    d.names.all fun name => name == "message" || (e.facts.map (·.1)).contains name

-- How closely it names what it covers: by the length of its target, then by its fields.
def weight (d : Directive) : Nat × Nat :=
  (match d.target with
    | none => 0
    | some own => own.utf8ByteSize + 1, d.fields.length)

-- Of two equally close directives the one with the later names is the weightier.
def outweighs (a b : Directive) : Bool :=
  if a.weight.1 ≠ b.weight.1 then b.weight.1 < a.weight.1
  else if a.weight.2 ≠ b.weight.2 then b.weight.2 < a.weight.2
  else decide (b.names < a.names)

end Directive
end Treasury.Log
