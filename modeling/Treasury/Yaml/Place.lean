namespace Treasury.Yaml

def isGap (c : Char) : Bool := c == ' ' || c == '\t'

def isBreak (c : Char) : Bool :=
  c == '\n' || c == '\r' || c == '\x85' || c == '\u2028' || c == '\u2029'

def isGapOrBreak (c : Char) : Bool := isGap c || isBreak c

-- An end of a line as it is kept in a value.
def keptBreak (c : Char) : Char := if c == '\u2028' || c == '\u2029' then c else '\n'

-- Controls have no place in a text.
def isAllowed (c : Char) : Bool :=
  let n := c.toNat
  n == 9 || n == 10 || n == 13 || (0x20 ≤ n && n ≤ 0x7E) || n == 0x85 || (0xA0 ≤ n && n ≤ 0xFFFD) ||
    0x10000 ≤ n

def isWord (c : Char) : Bool := c.isAlphanum || c == '-' || c == '_'

-- What is left of a text, and where in the text that begins.
structure Place where
  rest : List Char
  index : Nat
  line : Nat
  column : Nat

namespace Place

def ofText (s : String) : Place := ⟨s.toList, 0, 0, 0⟩

def head? (p : Place) : Option Char := p.rest.head?

def skip (p : Place) (n : Nat) : Place := ⟨p.rest.drop n, p.index + n, p.line, p.column + n⟩

def next (p : Place) : Place := p.skip 1

-- Past the end of the line; a carriage return and a line feed are one end.
def nextLine (p : Place) : Place :=
  match p.rest with
  | '\r' :: '\n' :: rest => ⟨rest, p.index + 2, p.line + 1, 0⟩
  | _ :: rest => ⟨rest, p.index + 1, p.line + 1, 0⟩
  | [] => p

def endsAt (p : Place) (n : Nat) : Bool := (p.rest.drop n).head?.all isGapOrBreak

def atLineEnd (p : Place) : Bool := p.head?.all isBreak

-- The line that begins or ends a document.
def atMarker (p : Place) : Bool :=
  p.column == 0 && (p.rest.take 3 == ['-', '-', '-'] || p.rest.take 3 == ['.', '.', '.']) &&
    p.endsAt 3

-- The characters of some kind that are next, and the place behind them.
def takeWhile (p : Place) (f : Char → Bool) : List Char × Place :=
  let taken := p.rest.takeWhile f
  (taken, p.skip taken.length)

def skipGaps (p : Place) : Place := (p.takeWhile isGap).2

def skipComment (p : Place) : Place :=
  if p.head? = some '#' then (p.takeWhile (!isBreak ·)).2 else p

end Place
end Treasury.Yaml
