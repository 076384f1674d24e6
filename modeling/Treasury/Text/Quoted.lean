import Treasury.Text.Shapeless

namespace Treasury.Text

def numbered (c : Char) : List Char :=
  '\\' :: 'u' :: '\x7b' :: (Nat.toDigits 16 c.toNat ++ ['\x7d'])

def escaped (c : Char) : List Char :=
  if c = '\t' then ['\\', 't']
  else if c = '\r' then ['\\', 'r']
  else if c = '\n' then ['\\', 'n']
  else if c = '"' then ['\\', '"']
  else if c = '\\' then ['\\', '\\']
  else if c = '\x00' then ['\\', '0']
  else if Shapeless.holds c then numbered c
  else [c]

def quoted (s : String) : String := .ofList ('"' :: s.toList.flatMap escaped ++ ['"'])

-- The characters that a terminal obeys: the bell, the backspace, the form feed, the escape, the
-- delete and the second row of controls.
def isCommand (c : Char) : Bool :=
  let n := c.toNat
  n == 7 || n == 8 || n == 12 || n == 27 || (0x7F ≤ n && n ≤ 0x9F)

-- Written so that a terminal shows them and does not obey.
def disarmed (s : String) : String :=
  .ofList <| s.toList.flatMap fun c =>
    if isCommand c then
      if c.toNat < 0x80 then '\\' :: 'x' :: hexFixed 2 c.toNat else numbered c
    else [c]

end Treasury.Text
