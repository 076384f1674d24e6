import Treasury.Yaml.Token

namespace Treasury.Yaml

inductive Node where
  | scalar (style : Style) (tag : Option String) (content : String)
  | sequence (items : List Node)
  | mapping (members : List (Node × Node))
  | reference (number : Nat)

def Node.absent (tag : Option String) : Node := .scalar .plain tag ""

-- A named value: the number of the name and how many names were given before.
structure Named where
  number : Nat
  order : Nat
  node : Node

structure Document where
  root : Node
  named : List Named

-- What a number refers to: of the values that share it, the one named last.
def Document.find? (named : List Named) (number : Nat) : Option Node :=
  let later (best : Option Named) (n : Named) :=
    if n.number = number ∧ best.all (·.order < n.order) then some n else best
  (named.foldl later none).map (·.node)

-- A document while it is put together from the words that are left.
structure Draft where
  tokens : List Token
  handles : List (String × String)
  names : List (String × Nat)
  given : Nat
  named : List Named

abbrev Compose (α : Type) := StateT Draft Option α

namespace Compose

def fail : Compose α := fun _ => none

def peek : Compose Token := do return (← get).tokens.head?.getD .streamEnd

def advance : Compose Unit := modify fun d => { d with tokens := d.tokens.tail }

-- A name's number is how many different names there are before it is given.
def name (name : String) : Compose (Nat × Nat) := do
  let d ← get
  let number := d.names.length
  let names := (name, number) :: d.names.filter (·.1 != name)
  set { d with names, given := d.given + 1 }
  return (number, d.given)

def record (claim : Option (Nat × Nat)) (node : Node) : Compose Node := do
  match claim with
  | none => return node
  | some (number, order) =>
    modify fun d => { d with named := ⟨number, order, node⟩ :: d.named }
    return node

def reference (name : String) : Compose Node := do
  match (← get).names.lookup name with
  | some number => return .reference number
  | none => fail

def anchor? : Compose (Option String) := do
  match ← peek with
  | .anchor name =>
    advance
    return some name
  | _ => return none

def tag? : Compose (Option Tag) := do
  match ← peek with
  | .tag tag =>
    advance
    return some tag
  | _ => return none

-- A name and a tag in either order.
def properties : Compose (Option String × Option Tag) := do
  match ← anchor? with
  | some name => return (some name, ← tag?)
  | none =>
    let tag ← tag?
    if tag.isSome then return (← anchor?, tag) else return (none, none)

def resolved : Option Tag → Compose (Option String)
  | none => return none
  | some tag => do
    match tag.resolve? (← get).handles with
    | some text => return some text
    | none => fail

mutual

-- A value. A block of entries at the indent of its name has no sign of its own.
def node (isBlock aligned : Bool) : Nat → Compose Node
  | 0 => fail
  | fuel + 1 => do
    if let .refer name := ← peek then
      advance
      reference name
    else
      let (anchor, tag) ← properties
      let tag ← resolved tag
      let claim ← anchor.mapM name
      let node ← content isBlock aligned (anchor.isSome || tag.isSome) tag fuel
      record claim node

-- A value without its name and its tag. One that has either need not be written.
def content (isBlock aligned marked : Bool) (tag : Option String) : Nat → Compose Node
  | 0 => fail
  | fuel + 1 => do
    match ← peek with
    | .scalar style text =>
      advance
      return .scalar style (if tag = some "!" then none else tag) text
    | .sequenceStart =>
      advance
      return .sequence (← flowItems true fuel)
    | .mappingStart =>
      advance
      return .mapping (← flowMembers true fuel)
    | .entry =>
      if aligned then return .sequence (← alignedItems fuel)
      else if marked then return .absent tag
      else fail
    | .sequenceBlock =>
      if isBlock then
        advance
        return .sequence (← blockItems fuel)
      else if marked then return .absent tag
      else fail
    | .mappingBlock =>
      if isBlock then
        advance
        return .mapping (← blockMembers fuel)
      else if marked then return .absent tag
      else fail
    | _ => if marked then return .absent tag else fail

def nodeUnless (stops : List Token) (isBlock aligned : Bool) : Nat → Compose Node
  | 0 => fail
  | fuel + 1 => do
    if stops.contains (← peek) then return .absent none else node isBlock aligned fuel

def blockItems : Nat → Compose (List Node)
  | 0 => fail
  | fuel + 1 => do
    match ← peek with
    | .entry =>
      advance
      let item ← nodeUnless [.entry, .blockEnd] true false fuel
      return item :: (← blockItems fuel)
    | .blockEnd =>
      advance
      return []
    | _ => fail

def alignedItems : Nat → Compose (List Node)
  | 0 => fail
  | fuel + 1 => do
    match ← peek with
    | .entry =>
      advance
      let item ← nodeUnless [.entry, .key, .value, .blockEnd] true false fuel
      return item :: (← alignedItems fuel)
    | _ => return []

def valueAfter (stops : List Token) (isBlock : Bool) : Nat → Compose Node
  | 0 => fail
  | fuel + 1 => do
    match ← peek with
    | .value =>
      advance
      nodeUnless stops isBlock isBlock fuel
    | _ => return .absent none

def blockMembers : Nat → Compose (List (Node × Node))
  | 0 => fail
  | fuel + 1 => do
    match ← peek with
    | .key =>
      advance
      let name ← nodeUnless [.key, .value, .blockEnd] true true fuel
      let value ← valueAfter [.key, .value, .blockEnd] true fuel
      return (name, value) :: (← blockMembers fuel)
    | .blockEnd =>
      advance
      return []
    | _ => fail

-- Items between brackets. A name with a value among them is a mapping of its own.
def flowItems (isFirst : Bool) : Nat → Compose (List Node)
  | 0 => fail
  | fuel + 1 => do
    if (← peek) = .sequenceEnd then
      advance
      return []
    else
      if !isFirst then
        if (← peek) = .comma then advance else fail
      match ← peek with
      | .sequenceEnd =>
        advance
        return []
      | .key =>
        advance
        let member ← pair fuel
        return .mapping [member] :: (← flowItems false fuel)
      | _ =>
        let item ← node false false fuel
        return item :: (← flowItems false fuel)

-- A name with a value among items. Where the name is missing, the word in its place is passed
-- over.
def pair : Nat → Compose (Node × Node)
  | 0 => fail
  | fuel + 1 => do
    if [Token.value, .comma, .sequenceEnd].contains (← peek) then
      advance
      return (.absent none, ← valueAfter [.comma, .sequenceEnd] false fuel)
    else
      let name ← node false false fuel
      return (name, ← valueAfter [.comma, .sequenceEnd] false fuel)

-- Members between braces. A value may be missing.
def flowMembers (isFirst : Bool) : Nat → Compose (List (Node × Node))
  | 0 => fail
  | fuel + 1 => do
    if (← peek) = .mappingEnd then
      advance
      return []
    else
      if !isFirst then
        if (← peek) = .comma then advance else fail
      match ← peek with
      | .mappingEnd =>
        advance
        return []
      | .key =>
        advance
        let name ← nodeUnless [.value, .comma, .mappingEnd] false false fuel
        let value ← valueAfter [.comma, .mappingEnd] false fuel
        return (name, value) :: (← flowMembers false fuel)
      | _ =>
        let name ← node false false fuel
        return (name, .absent none) :: (← flowMembers false fuel)

end

-- The directives in front of a document: one version at most, and each handle once.
def directives (versioned : Bool) : Nat → List (String × String) → Compose (List (String × String))
  | 0, _ => fail
  | fuel + 1, handles => do
    match ← peek with
    | .directive (.version major minor) =>
      advance
      if versioned ∨ major ≠ 1 ∨ (minor ≠ 1 ∧ minor ≠ 2) then fail else directives true fuel handles
    | .directive (.handle name address) =>
      advance
      if (handles.lookup name).isSome then fail
      else directives versioned fuel ((name, address) :: handles)
    | _ => return handles

def skipEnds : Nat → Compose Unit
  | 0 => fail
  | fuel + 1 => do
    if (← peek) = .documentEnd then
      advance
      skipEnds fuel

def isOutside : Token → Bool
  | .directive _ | .documentStart | .documentEnd | .streamEnd => true
  | _ => false

def marked (fuel : Nat) : Compose Node := do
  let handles ← directives false fuel []
  modify fun d => { d with handles := handles ++ Tag.standardHandles }
  if (← peek) ≠ .documentStart then fail
  else
    advance
    if isOutside (← peek) then return .absent none else node true false fuel

def document (fuel : Nat) : Compose Node := do
  let root ← if isOutside (← peek) then marked fuel else node true false fuel
  skipEnds fuel
  if (← peek) = .streamEnd then return root else fail

end Compose

-- Reading of a whole text. A value takes at most three steps for each of its words.
def Document.ofText? (s : String) : Option Document := do
  let tokens ← Token.ofText? s
  let (root, draft) ← (Compose.document (3 * tokens.length + 3)).run ⟨tokens, Tag.standardHandles, [], 0, []⟩
  return ⟨root, draft.named⟩

end Treasury.Yaml
