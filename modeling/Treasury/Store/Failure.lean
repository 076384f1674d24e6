import Treasury.Category

namespace Treasury

inductive StoreError where
  | uniqueViolation (constraint : String)
  | checkViolation (constraint : String)
  | unavailable (reason : String)
  | corrupt (row : String)
  | database (report : String)
deriving DecidableEq, Repr

namespace StoreError

def name : StoreError → String
  | .uniqueViolation _ => "UniqueViolation"
  | .checkViolation _ => "CheckViolation"
  | .unavailable _ => "Unavailable"
  | .corrupt _ => "Corrupt"
  | .database _ => "Database"

def message : StoreError → String
  | .uniqueViolation constraint => "Unique constraint violated: " ++ constraint
  | .checkViolation constraint => "Check constraint violated: " ++ constraint
  | .unavailable reason => "Store unavailable: " ++ reason
  | .corrupt row => "Corrupt row: " ++ row
  | .database report => "Database error: " ++ report

def category : StoreError → Category
  | .uniqueViolation _ => .conflict
  | .checkViolation _ => .validation
  | .unavailable _ => .transient
  | .corrupt _ => .internal
  | .database _ => .transient

def isUniqueViolation : StoreError → Bool
  | .uniqueViolation _ => true
  | _ => false

instance : Reported StoreError := ⟨name, category, message⟩

end StoreError

-- What a database client reports.
inductive DatabaseFailure where
  | uniqueRefused (constraint : Option String)
  | checkRefused (constraint : Option String)
  | refused (text : String)
  | poolTimedOut
  | poolClosed
  | io (text : String)
  | columnNotFound (column : String)
  | columnUnreadable (column text : String)
  | unreadable (text : String)
  | workerCrashed
  | rowNotFound
  | protocolBroken (text : String)
  -- A connection address that cannot be understood.
  | malformedAddress (text : String)
deriving DecidableEq, Repr

-- Lost connections may come back, unreadable values are corruption, and everything else is the
-- database's own report.
def DatabaseFailure.toStoreError : DatabaseFailure → StoreError
  | .uniqueRefused constraint => .uniqueViolation (constraint.getD "unknown")
  | .checkRefused constraint => .checkViolation (constraint.getD "unknown")
  | .refused text => .database ("error returned from database: " ++ text)
  | .poolTimedOut => .unavailable "pool timed out while waiting for an open connection"
  | .poolClosed => .unavailable "attempted to acquire a connection on a closed pool"
  | .io text => .unavailable ("error communicating with database: " ++ text)
  | .columnNotFound column => .corrupt ("no column found for name: " ++ column)
  | .columnUnreadable column text =>
    .corrupt ("error occurred while decoding column " ++ column ++ ": " ++ text)
  | .unreadable text => .corrupt ("error occurred while decoding: " ++ text)
  | .workerCrashed => .database "attempted to communicate with a crashed background worker"
  | .rowNotFound =>
    .database "no rows returned by a query that expected to return at least one row"
  | .protocolBroken text => .database ("encountered unexpected or invalid data: " ++ text)
  | .malformedAddress text => .database ("error with configuration: " ++ text)

end Treasury
