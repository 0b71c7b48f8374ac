import SchemaLedger.Bootstrap
import SchemaLedger.Directory.Scan
import SchemaLedger.Slug

/-! # Authoring migrations

Setting up a directory and adding migrations to it. A new file never takes the place of another:
its ID must be free, and it is created only where there is nothing. -/

namespace SchemaLedger.Directory

/-! ## Making directories -/

/-- Makes a directory; one that is there already will do. -/
def makeOne (dir : Path) : Task Files.IoError Unit := do
  match ← Task.files (.makeDir dir) with
  | .ok () => pure ()
  | .error .alreadyExists =>
    if ← Task.files (.isDir dir) then pure () else Task.fail .alreadyExists
  | .error error => Task.fail error

/-- Makes the first of some paths that can be made, each the parent of the one before, and
returns those before it, the innermost last. -/
def climb : List Path → List Path → Task Files.IoError (List Path)
  | missing, [] => pure missing
  | missing, dir :: outer => do
    if dir.octets = [] ∨ dir.parent?.isNone then pure missing
    else
      match ← Task.files (.makeDir dir) with
      | .ok () => pure missing
      | .error .notFound => climb (dir :: missing) outer
      | .error .alreadyExists =>
        if ← Task.files (.isDir dir) then pure missing else Task.fail .alreadyExists
      | .error error => Task.fail error

def makeEach : List Path → Task Files.IoError Unit
  | [] => pure ()
  | dir :: inner => do
    makeOne dir
    makeEach inner

def makeAll (dir : Path) : Task Files.IoError Unit := do
  makeEach (← climb [] dir.ancestors)

/-! ## Writing files -/

def writeNew (path : Path) (content : String) : Task Failure Unit := do
  Task.ofExcept (Failure.creating path) (← Task.files (.create path))
  Task.ofExcept (Failure.writing path) (← Task.files (.fill path content))

def vacant (id : Ident) (name : String) (ms : List Migration) : Except Failure Unit :=
  match ms.find? (·.id = id) with
  | some existing => .error (.duplicateId id existing.name name)
  | none => .ok ()

/-- Writes the bootstrap migration, in a directory made for it if need be. -/
def setUp (dir : Path) : Task Failure Path := do
  (makeAll dir).adapt (Failure.makingDirectory dir)
  let name := FileName.write 0 .first Bootstrap.slug
  Task.ofExcept id (vacant .first name (← scan dir))
  let path := dir.join (Text.octets name)
  writeNew path Bootstrap.sql
  Task.note (.wroteBootstrap path)
  pure path

def currentId : Task Failure Ident := do
  let seconds ← ExceptT.lift (Program.request (I := host) .now)
  Task.ofExcept Failure.ident (Ident.ofInt seconds)

/-- Adds a migration. Its ID is padded to the width of the largest ID in the directory. -/
def newFile (dir : Path) (id? : Option Ident) (description : String)
    (template? : Option String) : Task Failure Path := do
  let newId ← match id? with
    | some given => pure given
    | none => currentId
  let ms ← scan dir
  let name := FileName.write (Migration.maxWidth ms) newId (Slug.ofText description)
  Task.ofExcept id (vacant newId name ms)
  let path := dir.join (Text.octets name)
  writeNew path (template?.getD Bootstrap.placeholder)
  Task.note (.createdFile path)
  pure path

end SchemaLedger.Directory
