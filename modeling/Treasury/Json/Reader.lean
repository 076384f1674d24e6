import Treasury.Json.Basic
import Treasury.Text.Basic

namespace Treasury.Json

def isSpace (c : Char) : Bool := c == ' ' || c == '\n' || c == '\r' || c == '\t'

def skip (cs : List Char) : List Char := cs.dropWhile isSpace

def unit? (a b c d : Char) : Option Nat := do
  let a ← Text.hexDigit? a
  let b ← Text.hexDigit? b
  let c ← Text.hexDigit? c
  let d ← Text.hexDigit? d
  return ((a * 16 + b) * 16 + c) * 16 + d

def isHigh (u : Nat) : Bool := 0xD800 ≤ u && u < 0xDC00
def isLow (u : Nat) : Bool := 0xDC00 ≤ u && u < 0xE000

def pair (high low : Nat) : Char :=
  Char.ofNat (0x10000 + (high - 0xD800) * 0x400 + (low - 0xDC00))

def escaped? : Char → Option Char
  | '"' => some '"'
  | '\\' => some '\\'
  | '/' => some '/'
  | 'b' => some '\x08'
  | 'f' => some '\x0c'
  | 'n' => some '\n'
  | 'r' => some '\r'
  | 't' => some '\t'
  | _ => none

def push (c : Char) : Option (List Char × List Char) → Option (List Char × List Char)
  | none => none
  | some (chars, rest) => some (c :: chars, rest)

-- The text up to the closing quote. Half of a surrogate pair and a raw control character are
-- refused.
def quoted : List Char → Option (List Char × List Char)
  | [] => none
  | '"' :: rest => some ([], rest)
  | '\\' :: 'u' :: a :: b :: c :: d :: rest =>
    match unit? a b c d with
    | none => none
    | some u =>
      if isLow u then none
      else if isHigh u then
        match rest with
        | '\\' :: 'u' :: e :: f :: g :: h :: rest =>
          match unit? e f g h with
          | none => none
          | some v => if isLow v then push (pair u v) (quoted rest) else none
        | _ => none
      else push (Char.ofNat u) (quoted rest)
  | '\\' :: c :: rest =>
    match escaped? c with
    | none => none
    | some e => push e (quoted rest)
  | c :: rest => if c.toNat < 32 ∨ c = '\\' then none else push c (quoted rest)

def digitsOf (cs : List Char) : List Char × List Char :=
  (cs.takeWhile Char.isDigit, cs.dropWhile Char.isDigit)

def wholeOf? (cs : List Char) : Option (List Char × List Char) :=
  match digitsOf cs with
  | ([], _) => none
  | (['0'], rest) => some (['0'], rest)
  | ('0' :: _, _) => none
  | found => some found

def fractionOf? (cs : List Char) : Option (Option (List Char) × List Char) :=
  match cs with
  | '.' :: rest =>
    match digitsOf rest with
    | ([], _) => none
    | (digits, rest) => some (some digits, rest)
  | rest => some (none, rest)

def powerOf? (cs : List Char) : Option (Option (Bool × List Char) × List Char) :=
  match cs with
  | c :: rest =>
    if c = 'e' ∨ c = 'E' then
      let (minus, rest) := match rest with
        | '-' :: rest => (true, rest)
        | '+' :: rest => (false, rest)
        | rest => (false, rest)
      match digitsOf rest with
      | ([], _) => none
      | (digits, rest) => some (some (minus, digits), rest)
    else some (none, cs)
  | [] => some (none, [])

def numberOf? (cs : List Char) : Option (Number × List Char) :=
  let (negative, cs) := match cs with
    | '-' :: rest => (true, rest)
    | rest => (false, rest)
  (wholeOf? cs).bind fun (whole, cs) =>
    (fractionOf? cs).bind fun (fraction, cs) =>
      (powerOf? cs).bind fun (power, cs) => some (⟨negative, whole, fraction, power⟩, cs)

mutual

def valueOf? : Nat → List Char → Option (Json × List Char)
  | 0, _ => none
  | fuel + 1, cs =>
    match skip cs with
    | 'n' :: 'u' :: 'l' :: 'l' :: rest => some (.null, rest)
    | 't' :: 'r' :: 'u' :: 'e' :: rest => some (.bool true, rest)
    | 'f' :: 'a' :: 'l' :: 's' :: 'e' :: rest => some (.bool false, rest)
    | '"' :: rest => (quoted rest).bind fun (chars, rest) => some (.text (.ofList chars), rest)
    | '[' :: rest =>
      match skip rest with
      | ']' :: rest => some (.array [], rest)
      | _ => (itemsOf? fuel rest).bind fun (items, rest) => some (.array items, rest)
    | '\x7b' :: rest =>
      match skip rest with
      | '\x7d' :: rest => some (.object [], rest)
      | _ => (membersOf? fuel rest).bind fun (members, rest) => some (.object members, rest)
    | cs => (numberOf? cs).bind fun (n, rest) => some (.number n, rest)

def itemsOf? : Nat → List Char → Option (List Json × List Char)
  | 0, _ => none
  | fuel + 1, cs =>
    match valueOf? fuel cs with
    | none => none
    | some (item, rest) =>
      match skip rest with
      | ',' :: rest => (itemsOf? fuel rest).bind fun (items, rest) => some (item :: items, rest)
      | ']' :: rest => some ([item], rest)
      | _ => none

def membersOf? : Nat → List Char → Option (List (String × Json) × List Char)
  | 0, _ => none
  | fuel + 1, cs =>
    match skip cs with
    | '"' :: rest =>
      match quoted rest with
      | none => none
      | some (key, rest) =>
        match skip rest with
        | ':' :: rest =>
          match valueOf? fuel rest with
          | none => none
          | some (value, rest) =>
            match skip rest with
            | ',' :: rest =>
              (membersOf? fuel rest).bind fun (members, rest) =>
                some ((.ofList key, value) :: members, rest)
            | '\x7d' :: rest => some ([(.ofList key, value)], rest)
            | _ => none
        | _ => none
    | _ => none

end

def ofChars? (cs : List Char) : Option Json :=
  match valueOf? (2 * cs.length + 1) cs with
  | some (value, rest) => if skip rest = [] then some value else none
  | none => none

def ofText? (s : String) : Option Json := ofChars? s.toList

end Treasury.Json
