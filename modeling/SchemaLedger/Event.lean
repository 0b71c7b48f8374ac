import SchemaLedger.Migration
import SchemaLedger.Store.Error
import SchemaLedger.Text.Terminal

/-! # Events

What an activity reports while it goes on, and how an event reads in a log. -/

namespace SchemaLedger

inductive Level where
  | error
  | warn
  | info
  | debug
  | trace
  deriving DecidableEq, Repr

namespace Level

def detail : Level → Nat
  | error => 1
  | warn => 2
  | info => 3
  | debug => 4
  | trace => 5

def text : Level → String
  | error => "ERROR"
  | warn => "WARN"
  | info => "INFO"
  | debug => "DEBUG"
  | trace => "TRACE"

end Level

inductive Event where
  | foundMigration (id : Ident) (name : String)
  | wroteBootstrap (path : Path)
  | createdFile (path : Path)
  | renamed (r : Renaming)
  | leftNames (count : Nat)
  | ledgerMissing
  | withoutTransaction (name : String)
  | applying (name : String)
  | applied (id : Ident) (name : String)
  | rollbackFailed (name : String) (error : StoreError)
  | alreadySorted
  | dryRun (count : Nat)
  | allApplied (count skipped : Nat)
  deriving DecidableEq, Repr

namespace Event

def level : Event → Level
  | foundMigration .. | leftNames _ | ledgerMissing | withoutTransaction _ => .debug
  | rollbackFailed .. => .warn
  | _ => .info

def target : Event → String
  | foundMigration .. | wroteBootstrap _ | createdFile _ | renamed _ | leftNames _ =>
    "drift::migrations::manager"
  | ledgerMissing | withoutTransaction _ | applying _ | applied .. | rollbackFailed .. =>
    "drift::migrations::runner"
  | alreadySorted | dryRun _ => "drift::commands::renumber"
  | allApplied .. => "drift::commands::migrate"

def message : Event → String
  | foundMigration .. => "found migration file"
  | wroteBootstrap _ => "wrote bootstrap migration"
  | createdFile _ => "created migration file"
  | renamed r => "renamed " ++ r.text
  | leftNames _ => "dry run, no files renamed"
  | ledgerMissing => "ledger table not found, treating every migration as pending"
  | withoutTransaction _ => "running without a transaction"
  | applying name => "Applying " ++ name
  | applied _ name => "Applied " ++ name
  | rollbackFailed .. => "rollback failed"
  | alreadySorted => "Migration files already sort in ID order"
  | dryRun count =>
    "Dry run, " ++ Decimal.text count ++ " file(s) left unchanged; pass --write to rename them"
  | allApplied .. => "All migrations applied"

def fields : Event → List (String × String)
  | foundMigration id name => [("id", id.text), ("file", name)]
  | wroteBootstrap path | createdFile path => [("path", path.text)]
  | leftNames count => [("count", Decimal.text count)]
  | withoutTransaction name => [("file", name)]
  | applied id _ => [("id", id.text)]
  | rollbackFailed name error => [("file", name), ("error", error.message)]
  | allApplied count skipped =>
    [("applied", Decimal.text count), ("already_applied", Decimal.text skipped)]
  | _ => []

/-- The names under which parts of an event can be asked for. A run also measures the time it
took, which no line of this library shows. -/
def fieldNames (event : Event) : List String :=
  let shown := "message" :: event.fields.map (·.1)
  match event with
  | allApplied .. => shown ++ ["elapsed_ms"]
  | _ => shown

/-- A message must not command the terminal that shows it. -/
def text (event : Event) : String :=
  Text.Terminal.disarm event.message ++ String.join (event.fields.map fun (key, value) => " " ++ key ++ "=" ++ value)

end Event

end SchemaLedger
