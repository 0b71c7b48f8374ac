import SchemaLedger.CommandLine.Run
import SchemaLedger.Files.Answer
import SchemaLedger.Store.Connection
import SchemaLedger.Store.Faults

/-! # Rehearsals

Activities run against pure surroundings: a file tree, a store in memory with faults, and a clock
that stands still. What happened can be looked at afterwards. -/

namespace SchemaLedger

structure Rehearsal where
  tree : Files.Tree
  store : Store.Faulty
  clock : Int
  events : List Event
  output : List String
  deriving Repr

namespace Rehearsal

def answer : Handler host Rehearsal
  | .files call, r =>
    let (reply, tree) := Files.Tree.answer call r.tree
    (reply, { r with tree := tree })
  | .store call, r =>
    let (reply, store) := Store.Faulty.answer call r.store
    (reply, { r with store := store })
  | .now, r => (r.clock, r)
  | .note event, r => ((), { r with events := r.events ++ [event] })
  | .print line, r => ((), { r with output := r.output ++ [line] })
  | .connect url, r => (.error (Store.unreachable url), r)
  | .disconnect, r => ((), r)

def perform {ε α : Type} (task : Task ε α) (r : Rehearsal) : Except ε α × Rehearsal :=
  Program.run answer task.run r

/-! ## Command lines -/

structure Seen where
  exitCode : Nat
  output : List String
  report? : Option (List String)
  /-- The log, without blanks before a line. -/
  logs : List String
  deriving DecidableEq, Repr

def usageExit : Nat := 2

/-- The lines under which the text of a log entry is seen. -/
def logLines (entry : String) : List String :=
  (Text.printedLines entry).map fun line => String.ofList (line.toList.dropWhile Text.isBlank)

/-- Runs a command line and shows what it printed and logged. -/
def commandLine (arguments : List Octets) (env : Config.Environment) (r : Rehearsal) :
    Seen × Rehearsal :=
  match CommandLine.read arguments with
  | .error error =>
    match error.requested? with
    | some text => (⟨0, [text], none, []⟩, r)
    | none => (⟨usageExit, [], none, []⟩, r)
  | .ok invocation =>
    let (result, after) :=
      perform (CommandLine.run invocation env) { r with events := [], output := [] }
    let entries := after.events.filterMap (CommandLine.logSettings invocation env).line?
    let logs := entries.flatMap logLines
    match result with
    | .ok () => (⟨0, after.output, none, logs⟩, after)
    | .error error => (⟨1, after.output, some (Text.printedLines error.report), logs⟩, after)

end Rehearsal

end SchemaLedger
