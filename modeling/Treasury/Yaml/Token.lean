import Treasury.Yaml.Scalar
import Treasury.Yaml.Tag

namespace Treasury.Yaml

inductive Token where
  | directive (content : Directive)
  | documentStart
  | documentEnd
  | sequenceBlock
  | mappingBlock
  | blockEnd
  | sequenceStart
  | sequenceEnd
  | mappingStart
  | mappingEnd
  | entry
  | comma
  | key
  | value
  | refer (name : String)
  | anchor (name : String)
  | tag (content : Tag)
  | scalar (style : Style) (content : String)
  | streamEnd
deriving DecidableEq, Repr

-- What may be a name: where it is, before which word, and whether nothing else can stand there.
structure Candidate where
  number : Nat
  required : Bool
  index : Nat
  line : Nat
  column : Nat

-- A text as far as it is read.
structure Lexer where
  place : Place
  tokens : Array Token
  -- The column of the innermost block, with those around it; there is none at first.
  indent : Option Nat
  outer : List (Option Nat)
  -- Whether a name, or an entry of a block, may begin here.
  keyAllowed : Bool
  -- The candidate outside of brackets, last, and one for each pair of open brackets.
  candidate : Option Candidate
  enclosing : List (Option Candidate)

namespace Lexer

def ofText (s : String) : Lexer := ⟨.ofText s, #[], none, [], true, none, []⟩

def inFlow (l : Lexer) : Bool := !l.enclosing.isEmpty

def push (l : Lexer) (t : Token) : Lexer := { l with tokens := l.tokens.push t }

def pushSign (l : Lexer) (width : Nat) (t : Token) : Lexer :=
  { l.push t with place := l.place.skip width }

def insert (l : Lexer) (number : Nat) (t : Token) : Lexer :=
  { l with tokens := l.tokens.insertIdxIfInBounds number t }

def least (l : Lexer) : Nat := l.indent.elim 0 (· + 1)

-- Blanks, comments and ends of lines. Tabs do not count where a name may begin.
def settle : Nat → Lexer → Lexer
  | 0, l => l
  | fuel + 1, l =>
    let p := if l.place.column = 0 ∧ l.place.head? = some '\ufeff' then l.place.next else l.place
    let p := (p.takeWhile fun c => c == ' ' || ((l.inFlow || !l.keyAllowed) && c == '\t')).2
    let p := p.skipComment
    if p.head?.any isBreak then
      settle fuel { l with place := p.nextLine, keyAllowed := l.keyAllowed || !l.inFlow }
    else { l with place := p }

-- A name stands on one line and within 1024 characters.
def fresh? (p : Place) (c : Candidate) : Option (Option Candidate) :=
  if c.line < p.line ∨ c.index + 1024 < p.index then (if c.required then none else some none)
  else some (some c)

def refresh (p : Place) : Option Candidate → Option (Option Candidate)
  | none => some none
  | some c => fresh? p c

def expire (l : Lexer) : Option Lexer := do
  let candidate ← refresh l.place l.candidate
  return { l with candidate, enclosing := ← l.enclosing.mapM (refresh l.place) }

-- Blocks that a line at a column no longer belongs to.
def closed (column : Option Nat) :
    Option Nat → List (Option Nat) → Array Token → Option Nat × List (Option Nat) × Array Token
  | indent, [], tokens => (indent, [], tokens)
  | indent, outer :: rest, tokens =>
    let deeper :=
      match indent, column with
      | some i, some c => decide (c < i)
      | some _, none => true
      | none, _ => false
    if deeper then closed column outer rest (tokens.push .blockEnd)
    else (indent, outer :: rest, tokens)

-- Ends the blocks that are deeper than a column; all of them without one.
def unroll (l : Lexer) (column : Option Nat) : Lexer :=
  if l.inFlow then l
  else
    let (indent, outer, tokens) := closed column l.indent l.outer l.tokens
    { l with indent, outer, tokens }

-- Begins a block at a column that is deeper than the innermost one.
def roll (l : Lexer) (column number : Nat) (t : Token) : Lexer :=
  if l.inFlow || column < l.least then l
  else { l.insert number t with indent := some column, outer := l.indent :: l.outer }

def drop (l : Lexer) : Option Lexer :=
  if l.candidate.any (·.required) then none else some { l with candidate := none }

def save (l : Lexer) : Option Lexer :=
  if !l.keyAllowed then some l
  else l.drop.map fun l =>
    let required := !l.inFlow && l.indent == some l.place.column
    let p := l.place
    { l with candidate := some ⟨l.tokens.size, required, p.index, p.line, p.column⟩ }

def streamEnd (l : Lexer) : Option Lexer :=
  (l.unroll none).drop.map fun l => { l.push .streamEnd with keyAllowed := false }

def directive (l : Lexer) : Option Lexer := do
  let l ← (l.unroll none).drop
  let (content, place) ← Directive.ofPlace? l.place
  return { l.push (.directive content) with place, keyAllowed := false }

def marker (l : Lexer) (t : Token) : Option Lexer :=
  (l.unroll none).drop.map fun l => { l.pushSign 3 t with keyAllowed := false }

def openBracket (l : Lexer) (t : Token) : Option Lexer :=
  l.save.map fun l =>
    { l.pushSign 1 t with
      keyAllowed := true, candidate := none, enclosing := l.candidate :: l.enclosing }

def closeBracket (l : Lexer) (t : Token) : Option Lexer :=
  l.drop.map fun l =>
    let l := { l.pushSign 1 t with keyAllowed := false }
    match l.enclosing with
    | [] => l
    | candidate :: enclosing => { l with candidate, enclosing }

def comma (l : Lexer) : Option Lexer :=
  l.drop.map fun l => { l.pushSign 1 .comma with keyAllowed := true }

-- A sign that begins a block, if none is open at its column.
def blockSign (l : Lexer) (block t : Token) : Option Lexer :=
  if !l.inFlow && !l.keyAllowed then none
  else (l.roll l.place.column l.tokens.size block).drop.map fun l => l.pushSign 1 t

def entry (l : Lexer) : Option Lexer :=
  (l.blockSign .sequenceBlock .entry).map fun l => { l with keyAllowed := true }

def key (l : Lexer) : Option Lexer :=
  (l.blockSign .mappingBlock .key).map fun l => { l with keyAllowed := !l.inFlow }

-- A colon makes a name of the candidate in front of it. Without one the name stands behind a
-- question mark or is missing.
def value (l : Lexer) : Option Lexer :=
  match l.candidate with
  | some c =>
    let l := (l.insert c.number .key).roll c.column c.number .mappingBlock
    some { l.pushSign 1 .value with candidate := none, keyAllowed := false }
  | none =>
    if !l.inFlow && !l.keyAllowed then none
    else
      let l := l.roll l.place.column l.tokens.size .mappingBlock
      some { l.pushSign 1 .value with keyAllowed := !l.inFlow }

def word (l : Lexer) (read : Place → Option (Token × Place)) : Option Lexer := do
  let l ← l.save
  let (t, place) ← read l.place
  return { l.push t with place, keyAllowed := false }

def refer (l : Lexer) : Option Lexer :=
  l.word fun p => (anchorName? p).map fun (name, p) => (.refer name, p)

def anchor (l : Lexer) : Option Lexer :=
  l.word fun p => (anchorName? p).map fun (name, p) => (.anchor name, p)

def tag (l : Lexer) : Option Lexer :=
  l.word fun p => (Tag.ofPlace? l.inFlow p).map fun (t, p) => (.tag t, p)

def block (l : Lexer) (isLiteral : Bool) : Option Lexer := do
  let l ← l.drop
  let (content, place) ← block? isLiteral l.least l.place.next
  let style := if isLiteral then Style.literal else .folded
  return { l.push (.scalar style content) with place, keyAllowed := true }

def quoted (l : Lexer) (quote : Char) (style : Style) : Option Lexer :=
  l.word fun p =>
    (Yaml.quoted quote (p.rest.length + 1) [] p.next).map fun (content, p) =>
      (.scalar style content, p)

-- On the line after a plain value a name may begin.
def plain (l : Lexer) : Option Lexer := do
  let l ← l.save
  let p := l.place
  let (content, broken, place) ← Yaml.plain l.inFlow l.least (p.rest.length + 1) [] .empty p
  return { l.push (.scalar .plain content) with place, keyAllowed := broken }

-- Signs that no plain value begins with; three of them may when a word follows at once.
def beginsPlain (inFlow : Bool) (p : Place) (c : Char) : Bool :=
  if c = '-' then !(p.rest.drop 1).head?.any isGap
  else if c = '?' ∨ c = ':' then !inFlow && !p.endsAt 1
  else !isGap c && !(",[]\x7b\x7d#&*!|>\x27\"%@".toList ++ [Char.ofNat 96]).contains c

def step (l : Lexer) : Option Lexer := do
  let l ← (l.settle (l.place.rest.length + 1)).expire
  let l := l.unroll (some l.place.column)
  let p := l.place
  match p.head? with
  | none => l.streamEnd
  | some c =>
    if p.column = 0 ∧ c = '%' then l.directive
    else if p.atMarker then l.marker (if c = '-' then .documentStart else .documentEnd)
    else if c = '[' then l.openBracket .sequenceStart
    else if c = '\x7b' then l.openBracket .mappingStart
    else if c = ']' then l.closeBracket .sequenceEnd
    else if c = '\x7d' then l.closeBracket .mappingEnd
    else if c = ',' then l.comma
    else if c = '-' ∧ p.endsAt 1 then l.entry
    else if c = '?' ∧ (l.inFlow ∨ p.endsAt 1) then l.key
    else if c = ':' ∧ (l.inFlow ∨ p.endsAt 1) then l.value
    else if c = '*' then l.refer
    else if c = '&' then l.anchor
    else if c = '!' then l.tag
    else if c = '|' ∧ !l.inFlow then l.block true
    else if c = '>' ∧ !l.inFlow then l.block false
    else if c = '\x27' then l.quoted c .single
    else if c = '"' then l.quoted c .double
    else if beginsPlain l.inFlow p c then l.plain
    else none

def run : Nat → Lexer → Option (List Token)
  | 0, _ => none
  | fuel + 1, l =>
    l.step.bind fun l => if l.tokens.back? = some .streamEnd then some l.tokens.toList else run fuel l

end Lexer

-- The words of a text, of which the last is the end. Every step takes at least one character, so
-- the length of the text is fuel enough.
def Token.ofText? (s : String) : Option (List Token) :=
  if s.toList.all isAllowed then (Lexer.ofText s).run (s.length + 2) else none

end Treasury.Yaml
