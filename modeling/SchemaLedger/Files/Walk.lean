import SchemaLedger.Files.Error
import SchemaLedger.Files.Tree

/-! # Walking along paths

From a path to the location it names. Links on the way are followed, up to forty of them. -/

namespace SchemaLedger.Files.Tree

def start (tree : Tree) (path : Path) : Location :=
  if path.isAbsolute then [] else tree.workDir

/-- The moves a path asks for. A final slash asks for a directory. -/
def route (path : Path) : List Path.Step :=
  path.steps ++ if path.endsInSlash then [.stay] else []

def nameLimit : Nat := 255

def pathLimit : Nat := 4096

def linkLimit : Nat := 40

/-- Makes moves one by one; `follow` says where a walk goes on after a link. -/
def walkBy (tree : Tree) (follow : Location → List Path.Step → Except IoError Location) :
    Location → List Path.Step → Except IoError Location
  | here, [] => .ok here
  | here, step :: rest =>
    if tree.isDirectory here then
      match step with
      | .stay => walkBy tree follow here rest
      | .up => walkBy tree follow here.tail rest
      | .down name =>
        if nameLimit < name.length then .error .nameTooLong
        else
          match tree.get? (name :: here) with
          | none => .error .notFound
          | some (.link target) =>
            follow (if target.isAbsolute then [] else here) (route target ++ rest)
          | some _ => walkBy tree follow (name :: here) rest
    else .error .notDirectory

def walk (tree : Tree) : Nat → Location → List Path.Step → Except IoError Location
  | 0 => walkBy tree fun _ _ => .error .linkLoop
  | n + 1 => walkBy tree (walk tree n)

/-- The spelling of a path may be wrong whatever the tree. -/
def spelled (path : Path) : Except IoError Unit :=
  if 0 ∈ path.octets then .error .nulInPath
  else if path.octets = [] then .error .notFound
  else if pathLimit ≤ path.octets.length then .error .nameTooLong
  else .ok ()

def resolve (tree : Tree) (path : Path) : Except IoError Location := do
  spelled path
  walk tree linkLimit (tree.start path) (route path)

/-- Where the last part of a path would be, whether or not something is there; a link there is
not followed. Nothing if the last part is not a name. -/
def place (tree : Tree) (path : Path) : Except IoError (Option Location) := do
  spelled path
  let steps := path.steps
  let parent ← walk tree linkLimit (tree.start path) (steps.dropLast ++ [.stay])
  match steps.getLast? with
  | some (.down name) =>
    if nameLimit < name.length then .error .nameTooLong else .ok (some (name :: parent))
  | _ => .ok none

end SchemaLedger.Files.Tree
