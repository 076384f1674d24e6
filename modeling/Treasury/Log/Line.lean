import Treasury.Log.Filter
import Treasury.Json.Printer

namespace Treasury.Log

namespace Fact

def toText : Fact → String
  | .shown value => value
  | .text value => Text.quoted value
  | .number value => toString value
  | .flag value => toString value

def toJson : Fact → Json
  | .shown value | .text value => .text value
  | .number value => .ofInt value
  | .flag value => .bool value

end Fact

namespace Event

-- The level, the message and every fact. A message that commands the terminal is disarmed.
def toText (e : Event) : String :=
  e.level.name ++ " " ++ Text.disarmed e.message ++
    String.join (e.facts.map fun (name, fact) => " " ++ name ++ "=" ++ fact.toText)

def toJson (e : Event) : Json :=
  .object [("level", .text e.level.name),
    ("fields", .object (("message", .text e.message) ::
      e.facts.map fun (name, fact) => (name, fact.toJson))),
    ("target", .text e.target)]

end Event

-- How often a new file is begun.
inductive Rotation where
  | hourly
  | daily
  | never
deriving DecidableEq, Repr

namespace Rotation

def name : Rotation → String
  | .hourly => "Hourly"
  | .daily => "Daily"
  | .never => "Never"

-- Any other text stands for a single file.
def ofText (s : String) : Rotation :=
  let s := s.toLower
  if s = "hourly" then .hourly else if s = "daily" then .daily else .never

end Rotation

-- A moment as the name of a file tells it: the day, and the hour where files change with it.
def Rotation.stamp (r : Rotation) (now : String) : String :=
  let cs := now.toList
  match r with
  | .daily | .never => .ofList (cs.take 10)
  | .hourly => .ofList (cs.take 10) ++ "-" ++ .ofList ((cs.drop 11).take 2)

-- Where and how a program writes its log.
structure Output where
  filter : Filter
  json : Bool
  rotation : Rotation
  directory : String
  file : String
deriving DecidableEq

namespace Output

-- A file that never changes has no moment in its name, unless it would have no name without.
def fileName (o : Output) (now : String) : String :=
  if o.file = "" then o.rotation.stamp now
  else if o.rotation = .never then o.file
  else o.file ++ "." ++ o.rotation.stamp now

def lines (o : Output) (events : List Event) : List Json :=
  (events.filter o.filter.passes).map fun e => if o.json then e.toJson else .text e.toText

def terminal (o : Output) (events : List Event) : List Json := if o.json then [] else o.lines events

def stamped (now : String) : Json → String
  | .object members => (Json.object (("timestamp", .text now) :: members)).toText
  | .text line => now ++ " " ++ line
  | line => line.toText

end Output
end Treasury.Log
