import SchemaLedger.Files.Error
import SchemaLedger.Migration
import SchemaLedger.Store.Error

/-! # Failures

Why scanning, authoring or applying migrations fails. -/

namespace SchemaLedger

inductive Failure where
  | ident (error : IdentError)
  | invalidName (name : String)
  | duplicateId (id : Ident) (first second : String)
  | ledgerUnavailable (error : StoreError)
  /-- Another run has recorded the ID. -/
  | claimConflict (id : Ident) (name : String) (error : StoreError)
  | applyFailure (name : String) (error : StoreError)
  | files (context : String) (error : Files.IoError)
  deriving DecidableEq, Repr

namespace Failure

def message : Failure → String
  | ident error => error.message
  | invalidName name => "filename does not fit migration pattern: " ++ name
  | duplicateId id first second =>
    "duplicate migration ID " ++ id.text ++ ": " ++ first ++ ", " ++ second
  | ledgerUnavailable error => "could not get applied migrations: " ++ error.message
  | claimConflict id name error =>
    "migration " ++ id.text ++ " (" ++ name ++ ") was already claimed: " ++ error.message
  | applyFailure name error => "could not apply migration " ++ name ++ ": " ++ error.message
  | files context error => context ++ ": " ++ error.message

/-- The texts of the causes, the nearest first. -/
def causes : Failure → List String
  | ident error => error.source.toList
  | invalidName _ | duplicateId .. => []
  | ledgerUnavailable error => error.message :: error.causes
  | claimConflict _ _ error => error.message :: error.causes
  | applyFailure _ error => error.message :: error.causes
  | files _ error => [error.message]

def source (failure : Failure) : Option String := failure.causes.head?

def isClaimConflict : Failure → Bool
  | claimConflict .. => true
  | _ => false

/-! ## What was being done to a file -/

def listing (dir : Path) (error : Files.IoError) : Failure :=
  files ("could not list migration files in " ++ dir.text) error

def reading (path : Path) (error : Files.IoError) : Failure :=
  files ("could not read migration file " ++ path.text) error

def makingDirectory (dir : Path) (error : Files.IoError) : Failure :=
  files ("could not create migrations directory " ++ dir.text) error

def creating (path : Path) (error : Files.IoError) : Failure :=
  files ("could not create migration file " ++ path.text) error

def writing (path : Path) (error : Files.IoError) : Failure :=
  files ("could not write migration file " ++ path.text) error

def movingFile (r : Renaming) (error : Files.IoError) : Failure :=
  files ("could not rename " ++ r.text) error

end Failure

end SchemaLedger
