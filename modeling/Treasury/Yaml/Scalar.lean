import Treasury.Text.Basic
import Treasury.Yaml.Place

namespace Treasury.Yaml

inductive Style where
  | plain
  | single
  | double
  | literal
  | folded
deriving DecidableEq, Repr

-- What lies between two words: blanks on one line, or ends of lines of which the first is kept
-- apart from the others.
structure Gap where
  blanks : List Char
  broken : Bool
  first : List Char
  others : List Char

namespace Gap

def empty : Gap := ⟨[], false, [], []⟩

def text (g : Gap) : List Char :=
  if !g.broken then g.blanks
  else if g.first.head? = some '\n' then (if g.others = [] then [' '] else g.others)
  else g.first ++ g.others

-- The gap at a place. A tab must not stand for the indent of a line. Each step takes at least one
-- character, so the length of the text is fuel enough.
def read : Nat → Nat → Gap → Place → Option (Gap × Place)
  | 0, _, g, p => some (g, p)
  | fuel + 1, indent, g, p =>
    match p.head? with
    | none => some (g, p)
    | some c =>
      if isGap c then
        if !g.broken then read fuel indent { g with blanks := g.blanks ++ [c] } p.next
        else if c = '\t' ∧ p.column < indent then none
        else read fuel indent g p.next
      else if isBreak c then
        if g.broken then read fuel indent { g with others := g.others ++ [keptBreak c] } p.nextLine
        else read fuel indent ⟨[], true, [keptBreak c], []⟩ p.nextLine
      else some (g, p)

def at? (indent : Nat) (g : Gap) (p : Place) : Option (Gap × Place) :=
  read p.rest.length indent g p

end Gap

def isBracket (c : Char) : Bool := ",[]\x7b\x7d".toList.contains c

-- A plain word, its last character first. It ends before a colon that a gap follows and inside of
-- brackets before a comma or a bracket; there a colon must not touch one of those.
def plainWord (inFlow : Bool) : Nat → List Char → Place → Option (List Char × Place)
  | 0, word, p => some (word, p)
  | fuel + 1, word, p =>
    match p.rest with
    | [] => some (word, p)
    | c :: rest =>
      if isGapOrBreak c then some (word, p)
      else if inFlow ∧ c = ':' ∧ rest.head?.any (fun d => d == '?' || isBracket d) then none
      else if (c = ':' ∧ p.endsAt 1) ∨ (inFlow ∧ isBracket c) then some (word, p)
      else plainWord inFlow fuel (c :: word) p.next

-- A plain value, and whether ends of lines follow it. Its further lines must be indented.
def plain (inFlow : Bool) (indent : Nat) :
    Nat → List Char → Gap → Place → Option (String × Bool × Place)
  | 0, _, _, _ => none
  | fuel + 1, content, before, p =>
    if p.atMarker ∨ p.head? = some '#' then some (.ofList content.reverse, before.broken, p)
    else do
      let (word, p) ← plainWord inFlow p.rest.length [] p
      let content := if word = [] then content else word ++ before.text.reverse ++ content
      let before := if word = [] then before else .empty
      if !p.head?.any isGapOrBreak then return (.ofList content.reverse, before.broken, p)
      else
        let (gap, p) ← Gap.at? indent .empty p
        if !inFlow && p.column < indent then return (.ofList content.reverse, gap.broken, p)
        else plain inFlow indent fuel content gap p

def escapes : List (Char × Char) :=
  [('0', '\x00'), ('a', '\x07'), ('b', '\x08'), ('t', '\t'), ('\t', '\t'), ('n', '\n'), ('v', '\x0b'),
    ('f', '\x0c'), ('r', '\r'), ('e', '\x1b'), (' ', ' '), ('"', '"'), ('/', '/'), ('\\', '\\'),
    ('N', '\x85'), ('_', '\xa0'), ('L', '\u2028'), ('P', '\u2029')]

def codePoint? (digits : List Char) : Option Char :=
  (digits.mapM Text.hexDigit?).bind fun ds =>
    let n := ds.foldl (fun n d => 16 * n + d) 0
    if h : n.isValidChar then some (Char.ofNatAux n h) else none

-- The digits behind an escape that gives a character by its number.
def escapeWidth (mark : Char) : Nat :=
  if mark = 'x' then 2 else if mark = 'u' then 4 else if mark = 'U' then 8 else 0

-- A word between quotes, its last character first, and whether an escaped end of a line ends it.
-- Two single quotes stand for one; between double quotes a backslash begins an escape.
def quotedWord (quote : Char) : Nat → List Char → Place → Option (List Char × Bool × Place)
  | 0, word, p => some (word, false, p)
  | fuel + 1, word, p =>
    match p.rest with
    | [] => some (word, false, p)
    | c :: rest =>
      if isGapOrBreak c then some (word, false, p)
      else if c = quote then
        if quote = '\x27' ∧ rest.head? = some quote then quotedWord quote fuel (c :: word) (p.skip 2)
        else some (word, false, p)
      else if quote = '"' ∧ c = '\\' then
        match rest with
        | [] => none
        | mark :: digits =>
          if isBreak mark then some (word, true, p.next.nextLine)
          else
            let width := escapeWidth mark
            let char? :=
              if width = 0 then escapes.lookup mark
              else if digits.length < width then none
              else codePoint? (digits.take width)
            char?.bind fun d => quotedWord quote fuel (d :: word) (p.skip (2 + width))
      else quotedWord quote fuel (c :: word) p.next

def quoted (quote : Char) : Nat → List Char → Place → Option (String × Place)
  | 0, _, _ => none
  | fuel + 1, content, p =>
    if p.atMarker ∨ p.rest = [] then none
    else do
      let (content, escaped, p) ← quotedWord quote p.rest.length content p
      if p.head? = some quote then return (.ofList content.reverse, p.next)
      else
        let (gap, p) ← Gap.at? 0 { Gap.empty with broken := escaped } p
        quoted quote fuel (gap.text.reverse ++ content) p

-- What becomes of the ends of lines behind the last line.
inductive Chomp where
  | strip
  | clip
  | keep
deriving DecidableEq, Repr

def Chomp.ofMark? (c : Char) : Option Chomp :=
  if c = '-' then some .strip else if c = '+' then some .keep else none

-- An indent of zero is refused.
def blockIndent? (p : Place) : Option (Nat × Place) :=
  match p.head? with
  | some '0' => none
  | some c => if c.isDigit then some (c.toNat - 48, p.next) else some (0, p)
  | none => some (0, p)

def chompAt (p : Place) : Chomp × Place :=
  match p.head?.bind Chomp.ofMark? with
  | some chomp => (chomp, p.next)
  | none => (.clip, p)

-- The two marks behind the sign of a block, in either order; zero stands for no indent.
def blockHeader? (p : Place) : Option (Chomp × Nat × Place) :=
  match p.head?.bind Chomp.ofMark? with
  | some chomp => (blockIndent? p.next).map fun (indent, p) => (chomp, indent, p)
  | none => (blockIndent? p).map fun (indent, p) =>
      if indent = 0 then (.clip, 0, p)
      else
        let (chomp, p) := chompAt p
        (chomp, indent, p)

-- Empty lines up to the next line of the block. An indent of zero is not known yet; then it
-- becomes that of the widest of these lines, and at least `least`.
def blockBreaks (least : Nat) :
    Nat → Nat → Nat → List Char → Place → Option (Nat × List Char × Place)
  | 0, _, _, _, _ => none
  | fuel + 1, indent, widest, breaks, p =>
    let spaces := (p.rest.takeWhile (· == ' ')).length
    let p := p.skip (if indent = 0 then spaces else min spaces (indent - p.column))
    let widest := max widest p.column
    if (indent = 0 ∨ p.column < indent) ∧ p.head? = some '\t' then none
    else
      match p.head?.filter isBreak with
      | some c => blockBreaks least fuel indent widest (breaks ++ [keptBreak c]) p.nextLine
      | none => some (if indent = 0 then max widest (max least 1) else indent, breaks, p)

-- The lines of a block, with the end of the last line and the empty lines behind it.
def blockLines (isLiteral : Bool) (least : Nat) :
    Nat → Nat → List Char → Bool → List Char → List Char → Place →
      Option (List Char × List Char × List Char × Place)
  | 0, _, _, _, _, _, _ => none
  | fuel + 1, indent, content, blank, lineEnd, breaks, p =>
    if p.column ≠ indent ∨ p.rest = [] then some (content, lineEnd, breaks, p)
    else
      let indented := p.head?.any isGap
      let joint :=
        if !isLiteral && lineEnd.head? == some '\n' && !blank && !indented then
          (if breaks = [] then [' '] else [])
        else lineEnd
      let (line, p) := p.takeWhile (!isBreak ·)
      let lineEnd := (p.head?.map keptBreak).toList
      let content := content ++ joint ++ breaks ++ line
      let p := p.nextLine
      (blockBreaks least (p.rest.length + 1) indent 0 [] p).bind fun (indent, breaks, p) =>
        blockLines isLiteral least fuel indent content indented lineEnd breaks p

def block? (isLiteral : Bool) (least : Nat) (p : Place) : Option (String × Place) := do
  let (chomp, increment, p) ← blockHeader? p
  let p := p.skipGaps.skipComment
  if !p.atLineEnd then none
  else
    let p := p.nextLine
    let indent := if increment = 0 then 0 else (least - 1) + increment
    let (indent, breaks, p) ← blockBreaks least (p.rest.length + 1) indent 0 [] p
    let (content, lineEnd, breaks, p) ←
      blockLines isLiteral least (p.rest.length + 1) indent [] false [] breaks p
    let tail :=
      match chomp with
      | .strip => []
      | .clip => lineEnd
      | .keep => lineEnd ++ breaks
    return (.ofList (content ++ tail), p)

end Treasury.Yaml
