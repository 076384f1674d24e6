import Treasury.Text.Basic

namespace Treasury.Text.Percent

def bytesOf (c : Char) : List UInt8 := (String.singleton c).toUTF8.toList

-- The bytes of a text. A sign without its digits stands for itself.
def decode : List Char → List UInt8
  | '%' :: a :: b :: rest =>
    match hexDigit? a, hexDigit? b with
    | some high, some low => .ofNat (16 * high + low) :: decode rest
    | _, _ => bytesOf '%' ++ decode (a :: b :: rest)
  | c :: rest => bytesOf c ++ decode rest
  | [] => []

def decoded? (cs : List Char) : Option String := String.fromUTF8? ⟨(decode cs).toArray⟩

def isComplete : List Char → Bool
  | '%' :: a :: b :: rest => (hexDigit? a).isSome && (hexDigit? b).isSome && isComplete rest
  | '%' :: _ => false
  | _ :: rest => isComplete rest
  | [] => true

end Treasury.Text.Percent
