namespace Treasury

inductive Category where
  -- Malformed input, refused before any unit of work opens.
  | validation
  -- Taken already, or in the wrong state.
  | conflict
  -- A balance or threshold is not met.
  | insufficientResource
  -- No such row.
  | notFound
  -- The store or a provider cannot be reached.
  | transient
  -- A broken invariant or corrupted data.
  | internal
deriving DecidableEq, Repr

namespace Category

def all : List Category :=
  [.validation, .conflict, .insufficientResource, .notFound, .transient, .internal]

def name : Category → String
  | .validation => "VALIDATION"
  | .conflict => "CONFLICT"
  | .insufficientResource => "INSUFFICIENT_RESOURCE"
  | .notFound => "NOT_FOUND"
  | .transient => "TRANSIENT"
  | .internal => "INTERNAL"

def ofName? (s : String) : Option Category := all.find? (·.name == s)

-- Whether the operation may be submitted again unchanged.
def isRetryable (c : Category) : Bool := c == .transient

def httpStatus : Category → Nat
  | .validation => 400
  | .notFound => 404
  | .conflict => 409
  | .insufficientResource => 422
  | .transient => 503
  | .internal => 500

end Category

-- What is told of a failure: a code to act on, a category and a message.
class Reported (ε : Type) where
  code : ε → String
  category : ε → Category
  message : ε → String

end Treasury
