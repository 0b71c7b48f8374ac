import SchemaLedger.Apply.Run
import SchemaLedger.CommandLine.Reader
import SchemaLedger.Directory.Author
import SchemaLedger.Directory.Renumber
import SchemaLedger.Log

/-! # Running commands

What each command does, what it prints, and how a failure is reported. -/

namespace SchemaLedger.CommandLine

inductive RunError where
  | library (failure : Failure)
  | config (problem : Config.Problem)
  | template (file : Path) (error : Files.IoError)
  | connection (error : StoreError)
  deriving DecidableEq, Repr

namespace RunError

def message : RunError → String
  | library failure => failure.message
  | config problem => problem.message
  | template file _ => "could not read template " ++ file.text
  | connection _ => "could not open database connection"

def causes : RunError → List String
  | library failure => failure.causes
  | config problem => problem.causes
  | template _ error => [error.message]
  | connection error => error.message :: error.causes

/-! ## Reports -/

/-- A text whose further lines are indented like its first. -/
def indented (first further : String) (text : String) : String :=
  match Text.lines text.toList with
  | [] => first
  | line :: rest =>
    first ++ String.ofList line ++
      String.join (rest.map fun next => "\n" ++ further ++ String.ofList next)

def numbered (n : Nat) (cause : String) : String :=
  let number := Decimal.text n
  indented (String.ofList (List.replicate (5 - number.length) ' ') ++ number ++ ": ")
    "       " cause

def causeLines : List String → List String
  | [] => []
  | [cause] => [indented "    " "    " cause]
  | causes => (causes.zipIdx).map fun (cause, n) => numbered n cause

/-- The message, and the causes under a heading of their own if there are any. -/
def report (error : RunError) : String :=
  let heading := if error.causes.isEmpty then "" else "\n\nCaused by:"
  "Error: " ++ error.message ++ heading ++
    String.join ((causeLines error.causes).map fun lines => "\n" ++ lines)

end RunError

/-! ## Commands -/

def print (line : String) : Task RunError Unit :=
  ExceptT.lift (Program.request (I := host) (.print line))

def connect (url : String) : Task RunError Unit := do
  let answer ← ExceptT.lift (Program.request (I := host) (.connect url))
  Task.ofExcept RunError.connection answer

def disconnect : Task RunError Unit :=
  ExceptT.lift (Program.request (I := host) .disconnect)

def migrate (config : Config) (limit? : Option Ident) : Task RunError Unit := do
  connect (← Task.ofExcept RunError.config config.databaseUrl)
  let outcome ← ExceptT.lift (Apply.run config.migrationsDir limit?).run
  disconnect
  let done ← Task.ofExcept RunError.library outcome
  Task.note (.allApplied done.applied.length done.skipped)

def template (file : Path) : Task RunError String :=
  (Task.readText file).adapt (RunError.template file)

def new (config : Config) (slug : String) (id? : Option Ident) (template? : Option Path) :
    Task RunError Unit := do
  let content? ← match template? with
    | some file => some <$> template file
    | none => pure none
  let path ← (Directory.newFile config.migrationsDir id? slug content?).adapt .library
  print path.text

def setUp (config : Config) : Task RunError Unit := do
  let path ← (Directory.setUp config.migrationsDir).adapt .library
  print ("Wrote " ++ path.text)

def printEach : List Renaming → Task RunError Unit
  | [] => pure ()
  | r :: rest => do
    print r.text
    printEach rest

def renumber (config : Config) (write : Bool) : Task RunError Unit := do
  let renamings ← (Directory.renumber config.migrationsDir write).adapt .library
  if renamings.isEmpty then Task.note .alreadySorted
  else
    printEach renamings
    if write then pure () else Task.note (.dryRun renamings.length)

def run (invocation : Invocation) (env : Config.Environment) : Task RunError Unit := do
  let config ← (Config.load invocation.overrides env).adapt .config
  match invocation.command with
  | .migrate _ limit? => migrate config limit?
  | .new slug id? template? => new config slug id? template?
  | .setup => setUp config
  | .renumber write => renumber config write

def logSettings (invocation : Invocation) (env : Config.Environment) : Log.Settings :=
  Log.settings invocation.verbose invocation.quiet env.logFilter?

/-! ## Usage -/

def versionText : String := "drift 0.1.0"

def helpText : String := "\n".intercalate [
  "Manage SQL migrations",
  "",
  "Usage: drift [OPTIONS] <COMMAND>",
  "",
  "Commands:",
  "  migrate   Apply pending migrations",
  "  new       Create a new migration file",
  "  setup     Set up the migrations directory",
  "  renumber  Renumber migrations to fix filesystem sorting",
  "  help      Print this message or the help of the given subcommand(s)",
  "",
  "Options:",
  "      --migrations-dir <MIGRATIONS_DIR>  Directory containing migration files",
  "      --config <CONFIG>                  Config file to read instead of ./drift.toml",
  "  -v, --verbose...                       Log more detail (-v for debug, -vv for trace)",
  "  -q, --quiet                            Only log warnings and errors",
  "  -h, --help                             Print help",
  "  -V, --version                          Print version"]

/-- What is printed instead of running a command, if that is what was asked for. -/
def UsageError.requested? : UsageError → Option String
  | .helpRequested => some helpText
  | .versionRequested => some versionText
  | _ => none

def UsageError.message : UsageError → String
  | .refusedValue message => message
  | .invalidValue => "error: a value is missing or empty"
  | .conflict => "error: an option was given twice or excludes another"
  | .unexpectedValue => "error: a value was given for an option that takes none"
  | .missingOption => "error: a required option is missing"
  | .notText => "error: a value is not valid UTF-8"
  | .unknownCommand => "error: unrecognized command"
  | .unknownArgument => "error: unexpected argument"
  | .missingCommand => "error: a command is required"
  | .nothingGiven | .helpRequested => helpText
  | .versionRequested => versionText

end SchemaLedger.CommandLine
