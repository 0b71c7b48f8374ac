import SchemaLedger.Files.Error
import SchemaLedger.Path
import SchemaLedger.Program

/-! # Calls on files

The operations on files that the library makes, one request each. -/

namespace SchemaLedger.Files

inductive Call where
  | makeDir (path : Path)
  | isDir (path : Path)
  /-- The names in a directory, in the order of the surroundings. -/
  | list (path : Path)
  | read (path : Path)
  /-- Creates an empty file where there was nothing. -/
  | create (path : Path)
  | fill (path : Path) (content : String)
  | rename (source target : Path)
  deriving DecidableEq, Repr

abbrev Call.Answer : Call → Type
  | .isDir _ => Bool
  | .list _ => Except IoError (List Name)
  | .read _ => Except IoError Octets
  | _ => Except IoError Unit

abbrev calls : Interface := ⟨Call, Call.Answer⟩

def decode (bytes : Octets) : Except IoError String :=
  match Text.ofOctets? bytes with
  | some text => .ok text
  | none => .error .notText

end SchemaLedger.Files
