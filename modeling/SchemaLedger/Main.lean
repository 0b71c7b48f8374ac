import SchemaLedger.CommandLine.Run
import SchemaLedger.Store.Connection
import Std.Time.DateTime.Timestamp

/-! # The command line program

Answers the requests of a command with the files, the clock and the streams of the system. There
is no driver for a database here: a URL that can be read waits for a connection in vain. -/

namespace SchemaLedger.Native

def number? : IO.Error → Option UInt32
  | .alreadyExists _ n _ | .otherError n _ | .resourceBusy n _ | .resourceVanished n _
  | .unsupportedOperation n _ | .hardwareFault n _ | .unsatisfiedConstraints n _
  | .illegalOperation n _ | .protocolError n _ | .timeExpired n _ | .interrupted _ n _
  | .noFileOrDirectory _ n _ | .invalidArgument _ n _ | .permissionDenied _ n _
  | .resourceExhausted _ n _ | .inappropriateType _ n _ | .noSuchThing _ n _ => some n
  | .unexpectedEof | .userError _ => none

/-- Some operations report the number negated. -/
def fileError (error : IO.Error) : Files.IoError :=
  ((number? error).bind fun n => Files.IoError.ofNumber? n.toInt32.toInt.natAbs).getD
    .invalidArgument

/-- Runs an action on the file that a path names. The system takes only paths that are text. -/
def onPath {α : Type} (path : Path) (action : String → IO α) : IO (Except Files.IoError α) := do
  if 0 ∈ path.octets then return .error .nulInPath
  match Text.ofOctets? path.octets with
  | none => return .error .invalidArgument
  | some text =>
    match ← (action text).toBaseIO with
    | .ok value => return .ok value
    | .error error => return .error (fileError error)

def namesIn (dir : String) : IO (List Name) := do
  let entries ← (System.mkFilePath [dir]).readDir
  return (entries.map fun entry => Text.octets entry.fileName).toList

def readOctets (file : String) : IO Octets := do
  return (← IO.FS.readBinFile file).data.toList

def createNew (file : String) : IO Unit := do
  let _ ← IO.FS.Handle.mk file .writeNew

def isDir (path : Path) : IO Bool :=
  match Text.ofOctets? path.octets with
  | some text => (System.mkFilePath [text]).isDir
  | none => return false

def rename (source target : Path) : IO (Except Files.IoError Unit) := do
  match Text.ofOctets? target.octets with
  | some name => onPath source fun text => IO.FS.rename text name
  | none => return .error .invalidArgument

def onFiles : (call : Files.Call) → IO call.Answer
  | .makeDir path => onPath path fun text => IO.FS.createDir text
  | .isDir path => isDir path
  | .list path => onPath path namesIn
  | .read path => onPath path readOctets
  | .create path => onPath path createNew
  | .fill path content => onPath path fun text => IO.FS.writeFile text content
  | .rename source target => rename source target

def unconnected : (call : Store.Call) → call.Answer := Store.Call.failed (.database .poolClosed)

def now : IO Std.Time.Timestamp := Std.Time.Timestamp.now

def log (settings : Log.Settings) (event : Event) : IO Unit := do
  match settings.line? event with
  | some line => do
    let micros := (← now).toNanosecondsSinceUnixEpoch.toInt / 1000
    IO.eprintln ((Timestamp.mk micros).text ++ " " ++ line)
  | none => pure ()

def answer (settings : Log.Settings) : (call : Host.Call) → IO call.Answer
  | .files call => onFiles call
  | .store call => return unconnected call
  | .now => return (← now).toSecondsSinceUnixEpoch.toInt
  | .note event => log settings event
  | .print line => IO.println line
  | .connect url => return .error (Store.unreachable url)
  | .disconnect => return ()

def environment : IO Config.Environment := do
  let value (name : String) : IO (Option Octets) := do
    return (← IO.getEnv name).map Text.octets
  return ⟨← value Config.Environment.migrationsDirName,
    ← value Config.Environment.databaseUrlName,
    ← value Config.Environment.sharedDatabaseUrlName,
    ← value Config.Environment.logFilterName⟩

end SchemaLedger.Native

open SchemaLedger in
def main (arguments : List String) : IO UInt32 := do
  match CommandLine.read (arguments.map Text.octets) with
  | .error error =>
    match error.requested? with
    | some text => do
      IO.println text
      return 0
    | none => do
      IO.eprintln error.message
      return 2
  | .ok invocation =>
    let env ← Native.environment
    let settings := CommandLine.logSettings invocation env
    match ← (CommandLine.run invocation env).run.perform (Native.answer settings) with
    | .ok () => return 0
    | .error error => do
      IO.eprintln error.report
      return 1
