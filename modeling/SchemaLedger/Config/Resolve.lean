import SchemaLedger.Config.Document
import SchemaLedger.Host

/-! # Configuration

Where the migrations are and which database they are for. Each value comes from the first that
has it: the command line, the environment, the configuration file, the defaults. -/

namespace SchemaLedger.Config

def defaultFile : Path := .ofText "drift.toml"

def defaultDir : Path := .ofText "migrations"

structure Overrides where
  file? : Option Path
  migrationsDir? : Option Path
  databaseUrl? : Option String
  deriving DecidableEq, Repr

structure Environment where
  migrationsDir? : Option Octets
  databaseUrl? : Option Octets
  /-- The variable that other programs use for the same purpose. -/
  sharedDatabaseUrl? : Option Octets
  logFilter? : Option Octets
  deriving DecidableEq, Repr

namespace Environment

def migrationsDirName : String := "DRIFT_MIGRATIONS_DIR"
def databaseUrlName : String := "DRIFT_DATABASE_URL"
def sharedDatabaseUrlName : String := "DATABASE_URL"
def logFilterName : String := "RUST_LOG"

def ofLookup (lookup : String → Option Octets) : Environment :=
  ⟨lookup migrationsDirName, lookup databaseUrlName, lookup sharedDatabaseUrlName,
    lookup logFilterName⟩

/-- A variable that is not text or is empty counts as not set. -/
def value? (setting? : Option Octets) : Option String :=
  match setting? with
  | some octets =>
    match Text.ofOctets? octets with
    | some text => if text = "" then none else some text
    | none => none
  | none => none

end Environment

structure FileValues where
  migrationsDir? : Option Path
  databaseUrl? : Option String
  deriving DecidableEq, Repr

namespace FileValues

def none : FileValues := ⟨.none, .none⟩

/-- Takes in one assignment. A key that is unknown or was there before makes the file invalid. -/
def add (values : FileValues) (a : Assignment) : Option FileValues :=
  if a.key = "migrations-dir" then
    if values.migrationsDir?.isSome then .none
    else some { values with migrationsDir? := some (.ofText a.value) }
  else if a.key = "database-url" then
    if values.databaseUrl?.isSome then .none
    else some { values with databaseUrl? := some a.value }
  else .none

def parse (content : String) : Option FileValues := do
  (← assignments content).foldlM add none

end FileValues

inductive Problem where
  | unreadable (file : Path) (error : Files.IoError)
  | invalid (file : Path)
  | noDatabaseUrl
  deriving DecidableEq, Repr

namespace Problem

def message : Problem → String
  | unreadable file _ => "could not read config file " ++ file.text
  | invalid file => "invalid config file " ++ file.text
  | noDatabaseUrl =>
    "no database URL configured; pass --database-url, set " ++ Environment.databaseUrlName ++
      " or add database-url to " ++ defaultFile.text

def causes : Problem → List String
  | unreadable _ error => [error.message]
  | _ => []

end Problem

/-- What a text says as a configuration file, if it is one. -/
abbrev Format := String → Option FileValues

def parsed (format : Format) (file : Path) (content : String) : Task Problem FileValues :=
  match format content with
  | some values => pure values
  | none => Task.fail (.invalid file)

def readGiven (format : Format) (file : Path) : Task Problem FileValues := do
  parsed format file (← (Task.readText file).adapt (Problem.unreadable file))

/-- The values of the default file, which may be missing. -/
def readDefault (format : Format) : Task Problem FileValues := do
  match ← ExceptT.lift (Task.readText defaultFile).run with
  | .ok content => parsed format defaultFile content
  | .error .notFound => pure .none
  | .error error => Task.fail (.unreadable defaultFile error)

end SchemaLedger.Config

namespace SchemaLedger

structure Config where
  migrationsDir : Path
  databaseUrl? : Option String
  deriving DecidableEq, Repr

end SchemaLedger

namespace SchemaLedger.Config

/-- Each value from the first layer that has it. -/
def resolve (overrides : Overrides) (env : Environment) (file : FileValues) : Config where
  migrationsDir :=
    (overrides.migrationsDir?.or ((Environment.value? env.migrationsDir?).map .ofText)
      |>.or file.migrationsDir?).getD defaultDir
  databaseUrl? :=
    overrides.databaseUrl?.or (Environment.value? env.databaseUrl?)
      |>.or (Environment.value? env.sharedDatabaseUrl?) |>.or file.databaseUrl?

/-- The configuration, with the file in a format. -/
def loadAs (format : Format) (overrides : Overrides) (env : Environment) : Task Problem Config := do
  let file ← match overrides.file? with
    | some path => readGiven format path
    | none => readDefault format
  pure (resolve overrides env file)

def load : Overrides → Environment → Task Problem Config := loadAs FileValues.parse

def databaseUrl (config : Config) : Except Problem String :=
  match config.databaseUrl? with
  | some url => .ok url
  | none => .error .noDatabaseUrl

end SchemaLedger.Config
