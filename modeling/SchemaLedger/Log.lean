import SchemaLedger.Log.Filter

/-! # Logs

Which events a run writes to its log, and the line for each. -/

namespace SchemaLedger.Log

def levelFor (verbose : Nat) (quiet : Bool) : Level :=
  if quiet then .warn
  else
    match verbose with
    | 0 => .info
    | 1 => .debug
    | _ => .trace

def levelName : Level → String
  | .error => "error"
  | .warn => "warn"
  | .info => "info"
  | .debug => "debug"
  | .trace => "trace"

structure Settings where
  rules : Filter
  /-- Whether lines name the part that reports the event. -/
  showTarget : Bool
  deriving DecidableEq, Repr

/-- A filter from the environment overrides the command line, if it is text and can be read. -/
def settings (verbose : Nat) (quiet : Bool) (setting? : Option Octets) : Settings where
  rules := ((setting?.bind Text.ofOctets?).bind filter?).getD
    [⟨none, none, some (levelFor verbose quiet)⟩]
  showTarget := 1 < verbose

def Settings.line? (settings : Settings) (event : Event) : Option String :=
  if settings.rules.allows event then
    some (event.level.text ++ " " ++
      (if settings.showTarget then event.target ++ ": " else "") ++ event.text)
  else none

end SchemaLedger.Log
