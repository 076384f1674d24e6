import Treasury.Json.Basic
import Treasury.Text.Basic

namespace Treasury

namespace Number

def toChars (n : Number) : List Char :=
  (if n.negative then ['-'] else []) ++ n.whole ++
    (match n.fraction with
      | none => []
      | some digits => '.' :: digits) ++
    (match n.power with
      | none => []
      | some (minus, digits) => 'e' :: (if minus then ['-'] else []) ++ digits)

end Number

namespace Json

def escape (c : Char) : List Char :=
  if c = '"' then ['\\', '"']
  else if c = '\\' then ['\\', '\\']
  else if c = '\x08' then ['\\', 'b']
  else if c = '\x0c' then ['\\', 'f']
  else if c = '\n' then ['\\', 'n']
  else if c = '\r' then ['\\', 'r']
  else if c = '\t' then ['\\', 't']
  else if c.toNat < 32 then '\\' :: 'u' :: Text.hexFixed 4 c.toNat
  else [c]

def quote (s : String) : List Char := '"' :: s.toList.flatMap escape ++ ['"']

mutual

def toChars : Json → List Char
  | .null => ['n', 'u', 'l', 'l']
  | .bool true => ['t', 'r', 'u', 'e']
  | .bool false => ['f', 'a', 'l', 's', 'e']
  | .number n => n.toChars
  | .text s => quote s
  | .array items => '[' :: itemsToChars items ++ [']']
  | .object members => '\x7b' :: membersToChars members ++ ['\x7d']

def itemsToChars : List Json → List Char
  | [] => []
  | [item] => toChars item
  | item :: next :: rest => toChars item ++ ',' :: itemsToChars (next :: rest)

def membersToChars : List (String × Json) → List Char
  | [] => []
  | [(key, value)] => quote key ++ ':' :: toChars value
  | (key, value) :: next :: rest =>
    quote key ++ ':' :: toChars value ++ ',' :: membersToChars (next :: rest)

end

def toText (j : Json) : String := .ofList j.toChars

def ofInt (n : Int) : Json := .number (.ofInt n)
def ofNat (n : Nat) : Json := .number (.ofNat n)
def ofDecimal (d : Decimal) : Json := .text d.toText

def option (write : α → Json) : Option α → Json
  | none => .null
  | some a => write a

def whenSome (key : String) (write : α → Json) : Option α → List (String × Json)
  | none => []
  | some a => [(key, write a)]

end Json
end Treasury
