import SchemaLedger.Files.Error

/-! # Store errors

What the database driver reports, and what the store makes of it: the two failures that decide
how a run goes on have constructors of their own. -/

namespace SchemaLedger.Store

inductive SocketError where
  | missing
  | pathTooLong
  | nulInPath
  deriving DecidableEq, Repr

def SocketError.message : SocketError → String
  | missing => Files.IoError.notFound.message
  | pathTooLong => "path must be shorter than SUN_LEN"
  | nulInPath => "paths must not contain interior null bytes"

inductive DriverError where
  /-- The server refused a statement; the code is its SQLSTATE. -/
  | server (code : Option String) (message : String)
  | rowNotFound
  | poolTimedOut
  | poolClosed
  | workerCrashed
  | protocol (message : String)
  | columnNotFound (name : String)
  | columnUnreadable (name problem : String)
  | typeNotFound (name : String)
  | configuration (problem : String)
  | misconfigured (error : DriverError)
  | communication (error : SocketError)
  /-- Whatever else the driver reports, known by its text and those of its causes. -/
  | other (text : String) (causes : List String)
  deriving DecidableEq, Repr

namespace DriverError

def message : DriverError → String
  | server _ message => "error returned from database: " ++ message
  | rowNotFound =>
    "no rows returned by a query that expected to return at least one row"
  | poolTimedOut => "pool timed out while waiting for an open connection"
  | poolClosed => "attempted to acquire a connection on a closed pool"
  | workerCrashed => "attempted to communicate with a crashed background worker"
  | protocol message => "encountered unexpected or invalid data: " ++ message
  | columnNotFound name => "no column found for name: " ++ name
  | columnUnreadable name problem =>
    "error occurred while decoding column " ++ "\"" ++ name ++ "\": " ++ problem
  | typeNotFound name => "type named " ++ name ++ " not found"
  | configuration problem => "error with configuration: " ++ problem
  | misconfigured error => "error with configuration: " ++ error.message
  | communication error => "error communicating with database: " ++ error.message
  | other text _ => text

def causes : DriverError → List String
  | server _ message => [message]
  | columnUnreadable _ problem => [problem]
  | configuration problem => [problem]
  | misconfigured error => error.message :: error.causes
  | communication error => [error.message]
  | other _ causes => causes
  | _ => []

end DriverError

end SchemaLedger.Store

namespace SchemaLedger

inductive StoreError where
  | tableMissing
  | uniqueViolation (message : String)
  | database (error : Store.DriverError)
  | backend (message : String)
  deriving DecidableEq, Repr

namespace StoreError

def undefinedTable : String := "42P01"

def uniqueViolationCode : String := "23505"

/-- What a driver's error means to the store: only the server's own errors are told apart, and
only by two codes. -/
def classify (error : Store.DriverError) : StoreError :=
  match error with
  | .server (some code) message =>
    if code = undefinedTable then tableMissing
    else if code = uniqueViolationCode then uniqueViolation message
    else database error
  | _ => database error

def message : StoreError → String
  | tableMissing => "ledger table does not exist"
  | uniqueViolation message => "unique constraint violated: " ++ message
  | database error => "database error: " ++ error.message
  | backend message => "storage backend error: " ++ message

def causes : StoreError → List String
  | database error => error.message :: error.causes
  | _ => []

end StoreError

end SchemaLedger
