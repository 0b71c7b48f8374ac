import SchemaLedger.CommandLine.Option

/-! # Reading command lines

Arguments are read from left to right, first those before the command and then those after it.
A value that stands in an argument of its own is only looked at when the next option comes or
the arguments end, so a later mistake may be reported before an earlier one. -/

namespace SchemaLedger.CommandLine

inductive Form where
  /-- Two dashes: all that follows is no option. -/
  | separator
  | long (name : Octets) (value? : Option Octets)
  | letters (octets : Octets)
  | plain
  deriving DecidableEq, Repr

def dash : UInt8 := 0x2D

def equals : UInt8 := 0x3D

def splitLong (octets : Octets) : Octets × Option Octets :=
  match octets.dropWhile (· ≠ equals) with
  | [] => (octets, none)
  | _ :: value => (octets.takeWhile (· ≠ equals), some value)

def form (argument : Octets) : Form :=
  match argument with
  | [] | [_] => .plain
  | a :: b :: rest =>
    if a = dash then
      if b = dash then
        if rest = [] then .separator else .long (splitLong rest).1 (splitLong rest).2
      else .letters (b :: rest)
    else .plain

/-- An option whose value has not been taken in. -/
inductive Pending where
  | nothing
  | awaiting (key : Key)
  | holding (key : Key) (value : Octets)
  deriving DecidableEq, Repr

structure Reading where
  given : Given
  pending : Pending
  deriving DecidableEq, Repr

namespace Reading

def start : Reading := ⟨.none, .nothing⟩

/-- Takes in the value that is pending. -/
def resolve (reading : Reading) : Except UsageError Given :=
  match reading.pending with
  | .nothing => .ok reading.given
  | .awaiting _ => .error .invalidValue
  | .holding key value => reading.given.set key value

def attach (reading : Reading) (key : Key) (value : Octets) : Except UsageError Reading := do
  let given ← reading.resolve
  return ⟨← given.set key value, .nothing⟩

def await (reading : Reading) (key : Key) : Except UsageError Reading := do
  return ⟨← reading.resolve, .awaiting key⟩

def raise (reading : Reading) (flag : Flag) : Except UsageError Reading := do
  let given ← reading.resolve
  return ⟨← given.raise flag, .nothing⟩

def hold? (reading : Reading) (value : Octets) : Option Reading :=
  match reading.pending with
  | .awaiting key => some { reading with pending := .holding key value }
  | _ => none

def long (place : Option Verb) (reading : Reading) (name : Octets) (value? : Option Octets) :
    Except UsageError Reading :=
  match Key.all.find? fun key => key.allowed place && Text.octets key.name = name with
  | some key =>
    match value? with
    | some value => reading.attach key value
    | none => reading.await key
  | none =>
    match Flag.all.find? fun flag => flag.allowed place && Text.octets flag.name = name with
    | some flag =>
      if value?.isSome then .error .unexpectedValue else reading.raise flag
    | none => .error .unknownArgument

def letters (place : Option Verb) (reading : Reading) : Octets → Except UsageError Reading
  | [] => .ok reading
  | b :: rest =>
    match Flag.all.find? fun flag =>
      flag.allowed place && flag.letter?.any fun c => c.toNat = b.toNat with
    | some flag => do letters place (← reading.raise flag) rest
    | none => .error .unknownArgument

end Reading

/-- Options of one place exclude each other there. -/
def compatible (given : Given) : Except UsageError Unit :=
  if given.quiet && given.verbose ≠ 0 then .error .conflict else .ok ()

/-! ## After the command -/

/-- What must hold of a command's options when all of them have been read. -/
def finish (verb : Verb) (reading : Reading) : Except UsageError Given := do
  let given ← reading.resolve
  compatible given
  if verb = .new && given.slug?.isNone then .error .missingOption else .ok given

def readOptions (verb : Verb) (reading : Reading) : List Octets → Except UsageError Given
  | [] => finish verb reading
  | argument :: rest =>
    match form argument with
    | .separator => if rest = [] then finish verb reading else .error .unknownArgument
    | .long name value? => do
      readOptions verb (← reading.long (some verb) name value?) rest
    | .letters octets => do readOptions verb (← reading.letters (some verb) octets) rest
    | .plain =>
      match reading.hold? argument with
      | some next => readOptions verb next rest
      | none => .error .unknownArgument

/-! ## Before the command -/

def helpWord : String := "help"

def verb? (argument : Octets) : Option Verb := (Text.ofOctets? argument).bind Verb.ofName?

def isHelpWord (argument : Octets) : Bool := argument = Text.octets helpWord

def helpOn : List Octets → UsageError
  | [] => .helpRequested
  | [word] => if isHelpWord word || (verb? word).isSome then .helpRequested else .unknownCommand
  | _ => .unknownCommand

/-- A word where the options have ended without a command. -/
def strayWord (argument : Octets) : UsageError :=
  if isHelpWord argument || (verb? argument).isSome then .unknownArgument else .unknownCommand

def command (verb : Verb) (given : Given) : Command :=
  match verb with
  | .migrate => .migrate given.databaseUrl? given.limit?
  | .new => .new (given.slug?.getD "") given.id? given.template?
  | .setup => .setup
  | .renumber => .renumber given.write

/-- Joins what was given before and after the command; of the global options, the later given
count. -/
def invocation (verb : Verb) (before after : Given) : Invocation where
  migrationsDir? := after.migrationsDir?.or before.migrationsDir?
  config? := after.config?.or before.config?
  verbose := if after.verbose = 0 then before.verbose else after.verbose
  quiet := after.quiet || before.quiet
  command := command verb after

def withoutCommand (reading : Reading) : UsageError :=
  match reading.resolve with
  | .error error => error
  | .ok given => if given.isEmpty then .nothingGiven else .missingCommand

/-- Reads the arguments up to the command, and then those after it. -/
def readFrom (reading : Reading) : List Octets → Except UsageError Invocation
  | [] => .error (withoutCommand reading)
  | argument :: rest =>
    match form argument with
    | .separator =>
      match rest with
      | [] => .error (withoutCommand reading)
      | word :: _ => .error (strayWord word)
    | .long name value? => do readFrom (← reading.long none name value?) rest
    | .letters octets => do readFrom (← reading.letters none octets) rest
    -- A value for the option before it, a word for help, or the command.
    | .plain =>
      match reading.hold? argument with
      | some next => readFrom next rest
      | none =>
        if isHelpWord argument then .error (helpOn rest)
        else
          match verb? argument with
          | some verb => do
            let after ← readOptions verb .start rest
            let before ← reading.resolve
            compatible before
            return invocation verb before after
          | none => .error .unknownCommand

def read (arguments : List Octets) : Except UsageError Invocation := readFrom .start arguments

end SchemaLedger.CommandLine
