import Treasury.Text.Percent

namespace Treasury

structure Address where
  scheme : String
  user : String
  password : String
  host : String
  portNumber : Option Nat
  path : String
  query : List (String × String)
deriving DecidableEq, Repr

namespace Address

-- A number of eight binary digits without a needless zero in front.
def isOctet (s : String) : Bool :=
  (s == "0" || s.toList.head? != some '0') && ((Text.natural? s.toList).filter (· < UInt8.size)).isSome

def isFourOctets (s : String) : Bool :=
  let octets := s.splitOn "."
  octets.length == 4 && octets.all isOctet

def isGroup (s : String) : Bool :=
  let digits := s.toList
  0 < digits.length && digits.length ≤ 4 && digits.all fun c => (Text.hexDigit? c).isSome

-- How many groups of 16 binary digits stand between the colons of a text. The last two may be
-- written as four octets where the address ends.
def groups? (isLast : Bool) (s : String) : Option Nat :=
  if s = "" then some 0
  else
    let parts := s.splitOn ":"
    let last := parts.getLast?.getD ""
    if parts.all isGroup then some parts.length
    else if isLast && parts.dropLast.all isGroup && isFourOctets last then some (parts.length + 1)
    else none

-- Eight groups, of which two colons may leave out any that are zero.
def isEightGroups (s : String) : Bool :=
  match s.splitOn "::" with
  | [whole] => groups? true whole == some 8
  | [front, back] =>
    match groups? false front, groups? true back with
    | some m, some n => m + n ≤ 7
    | _, _ => false
  | _ => false

def isNumeric (s : String) : Bool := isFourOctets s || isEightGroups s

def isSchemeChar (c : Char) : Bool := c.isAlphanum || c == '+' || c == '-' || c == '.'

def splitScheme (cs : List Char) : Option (String × List Char) :=
  let scheme := cs.takeWhile isSchemeChar
  match scheme.head?, cs.drop scheme.length with
  | some c, ':' :: rest => if c.isAlpha then some ((String.ofList scheme).toLower, rest) else none
  | _, _ => none

-- Schemes whose addresses always have a host, which any slashes come before.
def isHosted (scheme : String) : Bool := ["http", "https", "ws", "wss", "ftp"].contains scheme

-- What stands between two slashes and the path, and the rest. There is none without the slashes.
def authority? (hosted : Bool) (cs : List Char) : Option (List Char × List Char) :=
  let cut (cs : List Char) :=
    let inside := cs.takeWhile fun c => !("/?#".toList.contains c || (hosted && c == '\\'))
    (inside, cs.drop inside.length)
  if hosted then some (cut (cs.dropWhile fun c => c == '/' || c == '\\'))
  else
    match cs with
    | '/' :: '/' :: rest => some (cut rest)
    | _ => none

def splitUser (cs : List Char) : Option (List Char) × List Char :=
  let place := (cs.reverse.takeWhile (· != '@')).reverse
  if place.length = cs.length then (none, place)
  else (some (cs.take (cs.length - place.length - 1)), place)

def splitHost (bracketed : Bool) : List Char → List Char × List Char
  | [] => ([], [])
  | c :: rest =>
    if c = ':' ∧ !bracketed then ([], c :: rest)
    else
      let (host, after) := splitHost (if c = '[' then true else if c = ']' then false else bracketed) rest
      (c :: host, after)

def isHostChar (c : Char) : Bool := !("\x00\t\n\r #/:<>?@[\\]^|".toList.contains c)

def isHost (cs : List Char) : Bool :=
  match cs with
  | '[' :: rest => rest.getLast? == some ']' && isEightGroups (.ofList rest.dropLast)
  | _ => cs.all isHostChar

def portNumber? (cs : List Char) : Option (Option Nat × List Char) :=
  match cs with
  | ':' :: rest =>
    let digits := rest.takeWhile Char.isDigit
    let after := rest.drop digits.length
    if after ≠ [] ∧ after.head? ≠ some '\\' then none
    else if digits = [] then some (none, after)
    else ((Text.natural? digits).filter (· < UInt16.size)).map fun n => (some n, after)
  | _ => some (none, cs)

def splitAt (mark : Char) (cs : List Char) : List Char × List Char :=
  let first := cs.takeWhile (· != mark)
  (first, cs.drop (first.length + 1))

def spelled (cs : List Char) : String :=
  (Text.Percent.decoded? (cs.map fun c => if c = '+' then ' ' else c)).getD "\ufffd"

def pairs (query : List Char) : List (String × String) :=
  (((String.ofList query).splitOn "&").filter (· != "")).map fun piece =>
    let (name, value) := splitAt '=' piece.toList
    (spelled name, spelled value)

def locate (a : Address) (cs : List Char) : Address :=
  let (path, query) := splitAt '?' (splitAt '#' cs).1
  { a with path := .ofList path, query := pairs query }

-- An address behind its scheme. Who signs in needs a host to sign in to, and so does a number.
def ofAuthority? (scheme : String) (authority rest : List Char) : Option Address := do
  let (user?, place) := splitUser authority
  let (user, password) := splitAt ':' (user?.getD [])
  let (host, after) := splitHost false place
  let (portNumber, trail) ← portNumber? after
  let nameless := user = [] ∧ password = []
  let hostless :=
    isHosted scheme ∨ after ≠ [] ∨ !nameless ∨ (user? = some [] ∧ rest ≠ [])
  if (host = [] ∧ hostless) ∨ !isHost host then none
  else
    let a : Address :=
      ⟨scheme, .ofList user, .ofList password, .ofList host, portNumber, "", []⟩
    return a.locate (trail ++ rest)

-- Blanks and controls around an address do not count, nor do ends of lines and tabs within.
def stripped (cs : List Char) : List Char :=
  let outer (cs : List Char) := cs.dropWhile (· ≤ ' ')
  (outer (outer cs).reverse).reverse.filter fun c => c != '\t' && c != '\n' && c != '\r'

def ofText? (s : String) : Option Address := do
  let (scheme, rest) ← splitScheme (stripped s.toList)
  match authority? (isHosted scheme) rest with
  | some (authority, rest) => ofAuthority? scheme authority rest
  | none => return locate ⟨scheme, "", "", "", none, "", []⟩ rest

def isWeb (a : Address) : Bool := (a.scheme == "http" || a.scheme == "https") && a.host != ""

def encryptionModes : List String :=
  ["disable", "allow", "prefer", "require", "verify-ca", "verify-full"]

-- A number below a bound, behind an optional plus.
def isNumberBelow (bound : Nat) (s : String) : Bool :=
  let digits := if s.toList.head? = some '+' then s.toList.tail else s.toList
  ((Text.natural? digits).filter (· < bound)).isSome

def isOption : String × String → Bool
  | (name, value) =>
    if name = "sslmode" ∨ name = "ssl-mode" then encryptionModes.contains value.toLower
    else if name = "port" then isNumberBelow UInt16.size value
    else if name = "statement-cache-capacity" then isNumberBelow UInt64.size value
    else if name = "hostaddr" then isNumeric value
    else true

def isSpelled (s : String) : Bool := (Text.Percent.decoded? s.toList).isSome

-- What a connection to a database can be opened to. A host that begins with a slash is a path of
-- this machine.
def isDatabase (a : Address) : Bool :=
  isSpelled a.user && isSpelled a.password &&
    isSpelled (.ofList (a.path.toList.dropWhile (· == '/'))) &&
    ((Text.Percent.decode a.host.toList).head? != some 47 || isSpelled a.host) &&
    a.query.all isOption

end Address
end Treasury
