import Treasury.Log.Directive

namespace Treasury.Log

abbrev Filter := List Directive

namespace Filter

def pieces (s : String) : List String := (s.splitOn ",").filter (· != "")

-- Without any directive, errors pass.
def ofDirectives : List Directive → Filter
  | [] => [⟨none, none, [], Level.error.rank⟩]
  | directives => directives

-- Texts that are no directive are passed over.
def ofText (s : String) : Filter :=
  ofDirectives ((pieces s).filterMap fun piece => (Directive.ofText piece).toOption)

-- What is said about the texts that are passed over.
def complaints (s : String) : List String :=
  (pieces s).filterMap fun piece =>
    match Directive.ofText piece with
    | .ok _ => none
    | .error refusal => some ("ignoring `" ++ piece ++ "`: " ++ refusal.message)

-- Reading that refuses a text with anything in it that is no directive.
def ofText? (s : String) : Option Filter :=
  ((pieces s).mapM fun piece => (Directive.ofText piece).toOption).map ofDirectives

def weightier (best : Option Directive) (d : Directive) : Option Directive :=
  match best with
  | none => some d
  | some b => if b.outweighs d then some b else some d

def deciding? (f : Filter) (e : Event) : Option Directive :=
  (f.filter (·.covers e)).foldl weightier none

def passes (f : Filter) (e : Event) : Bool :=
  match f.deciding? e with
  | none => false
  | some d => e.level.rank ≤ d.rank

end Filter
end Treasury.Log
