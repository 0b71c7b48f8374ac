import SchemaLedger.CommandLine.Invocation
import SchemaLedger.Text.Lines
import SchemaLedger.Text.Terminal

/-! # Options

The options of the command line: which take values, where they are allowed, and what a value
means. Four global options are allowed before and after the command. -/

namespace SchemaLedger.CommandLine

inductive Verb where
  | migrate
  | new
  | setup
  | renumber
  deriving DecidableEq, Repr

namespace Verb

def name : Verb → String
  | migrate => "migrate"
  | new => "new"
  | setup => "setup"
  | renumber => "renumber"

def ofName? (name : String) : Option Verb :=
  match name with
  | "migrate" => some migrate
  | "new" => some new
  | "setup" | "init" => some setup
  | "renumber" => some renumber
  | _ => none

end Verb

inductive Key where
  | migrationsDir
  | config
  | databaseUrl
  | limit
  | slug
  | id
  | template
  deriving DecidableEq, Repr

inductive Flag where
  | verbose
  | quiet
  | write
  | help
  | version
  deriving DecidableEq, Repr

namespace Key

def name : Key → String
  | migrationsDir => "migrations-dir"
  | config => "config"
  | databaseUrl => "database-url"
  | limit => "until"
  | slug => "slug"
  | id => "id"
  | template => "template"

/-- Where an option is allowed: before the command, or among the options of a command. -/
def allowed : Option Verb → Key → Bool
  | _, migrationsDir | _, config => true
  | some .migrate, databaseUrl | some .migrate, limit => true
  | some .new, slug | some .new, id | some .new, template => true
  | _, _ => false

def all : List Key := [migrationsDir, config, databaseUrl, limit, slug, id, template]

end Key

namespace Flag

def name : Flag → String
  | verbose => "verbose"
  | quiet => "quiet"
  | write => "write"
  | help => "help"
  | version => "version"

def letter? : Flag → Option Char
  | verbose => some 'v'
  | quiet => some 'q'
  | write => none
  | help => some 'h'
  | version => some 'V'

def allowed : Option Verb → Flag → Bool
  | _, verbose | _, quiet | _, help => true
  | some .renumber, write => true
  | none, version => true
  | _, _ => false

def all : List Flag := [verbose, quiet, write, help, version]

end Flag

/-! ## Values -/

/-- What the options at one place say: before the command, or after it. -/
structure Given where
  migrationsDir? : Option Path
  config? : Option Path
  databaseUrl? : Option String
  limit? : Option Ident
  slug? : Option String
  id? : Option Ident
  template? : Option Path
  verbose : Nat
  quiet : Bool
  write : Bool
  deriving DecidableEq, Repr

namespace Given

def none : Given :=
  ⟨.none, .none, .none, .none, .none, .none, .none, 0, false, false⟩

def has (given : Given) : Key → Bool
  | .migrationsDir => given.migrationsDir?.isSome
  | .config => given.config?.isSome
  | .databaseUrl => given.databaseUrl?.isSome
  | .limit => given.limit?.isSome
  | .slug => given.slug?.isSome
  | .id => given.id?.isSome
  | .template => given.template?.isSome

def path (value : Octets) : Except UsageError Path :=
  if value = [] then .error .invalidValue else .ok ⟨value⟩

def text (value : Octets) : Except UsageError String :=
  match Text.ofOctets? value with
  | some text => .ok text
  | .none => .error .notText

/-- The report on a value that is not an ID: its first line, with the option and its
placeholder. Commands to a terminal are left out of the value. -/
def refusal (option placeholder text : String) (error : IdentError) : String :=
  Text.firstLine ("error: invalid value '" ++ Text.Terminal.strip text ++ "' for '--" ++ option ++
    " <" ++ placeholder ++ ">': " ++ error.message)

def ident (option placeholder : String) (value : Octets) : Except UsageError Ident := do
  let text ← text value
  match Ident.parse text with
  | .ok id => .ok id
  | .error error => .error (.refusedValue (refusal option placeholder text error))

def set (given : Given) (key : Key) (value : Octets) : Except UsageError Given :=
  if given.has key then .error .conflict
  else
    match key with
    | .migrationsDir => do return { given with migrationsDir? := some (← path value) }
    | .config => do return { given with config? := some (← path value) }
    | .databaseUrl => do return { given with databaseUrl? := some (← text value) }
    | .limit => do return { given with limit? := some (← ident "until" "UNTIL" value) }
    | .slug => do return { given with slug? := some (← text value) }
    | .id => do return { given with id? := some (← ident "id" "ID" value) }
    | .template => do return { given with template? := some (← path value) }

def mostVerbose : Nat := 255

/-- Takes in a flag. Only `verbose` may be repeated. -/
def raise (given : Given) : Flag → Except UsageError Given
  | .verbose => .ok { given with verbose := min (given.verbose + 1) mostVerbose }
  | .quiet => if given.quiet then .error .conflict else .ok { given with quiet := true }
  | .write => if given.write then .error .conflict else .ok { given with write := true }
  | .help => .error .helpRequested
  | .version => .error .versionRequested

def isEmpty (given : Given) : Bool := given = none

end Given

end SchemaLedger.CommandLine
