import SchemaLedger.Config.Resolve

/-! # Invocations

What a command line asks for once it has been read. -/

namespace SchemaLedger.CommandLine

inductive Command where
  | migrate (databaseUrl? : Option String) (limit? : Option Ident)
  | new (slug : String) (id? : Option Ident) (template? : Option Path)
  | setup
  | renumber (write : Bool)
  deriving DecidableEq, Repr

structure Invocation where
  migrationsDir? : Option Path
  config? : Option Path
  verbose : Nat
  quiet : Bool
  command : Command
  deriving DecidableEq, Repr

/-- The values that take precedence over every other configuration. -/
def Invocation.overrides (invocation : Invocation) : Config.Overrides where
  file? := invocation.config?
  migrationsDir? := invocation.migrationsDir?
  databaseUrl? :=
    match invocation.command with
    | .migrate databaseUrl? _ => databaseUrl?
    | _ => none

inductive UsageError where
  | missingCommand
  | nothingGiven
  | unknownCommand
  | unknownArgument
  | invalidValue
  /-- An option twice, or two options that exclude each other. -/
  | conflict
  | unexpectedValue
  | missingOption
  | notText
  | refusedValue (message : String)
  | helpRequested
  | versionRequested
  deriving DecidableEq, Repr

end SchemaLedger.CommandLine
