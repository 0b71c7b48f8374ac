import SchemaLedger.Files.Call
import SchemaLedger.Files.Walk

/-! # Answers to calls on files

How a file tree answers each call and what becomes of it. -/

namespace SchemaLedger.Files.Tree

def isDir (tree : Tree) (path : Path) : Bool :=
  match tree.resolve path with
  | .ok location => tree.isDirectory location
  | .error _ => false

def list (tree : Tree) (path : Path) : Except IoError (List Name) := do
  let location ← tree.resolve path
  if tree.isDirectory location then .ok (tree.names location) else .error .notDirectory

def read (tree : Tree) (path : Path) : Except IoError Octets := do
  let location ← tree.resolve path
  match tree.get? location with
  | some (.file content) => .ok content
  | some .directory => .error .isDirectory
  | _ => .error .notFound

def makeDir (tree : Tree) (path : Path) : Except IoError Tree := do
  match ← tree.place path with
  | none => .error .alreadyExists
  | some location =>
    if (tree.get? location).isSome then .error .alreadyExists
    else .ok (tree.put location .directory)

def create (tree : Tree) (path : Path) : Except IoError Tree := do
  match ← tree.place path with
  | none => .error .alreadyExists
  | some location =>
    if path.endsInSlash then .error .isDirectory
    else if (tree.get? location).isSome then .error .alreadyExists
    else .ok (tree.put location (.file []))

def fill (tree : Tree) (path : Path) (content : Octets) : Except IoError Tree := do
  let location ← tree.resolve path
  match tree.get? location with
  | some (.file _) => .ok (tree.put location (.file content))
  | some .directory => .error .isDirectory
  | _ => .error .notFound

/-- Whether what is at one location may take the place of what is at another. -/
def mayReplace (tree : Tree) (source target : Location) (entry : Entry) : Except IoError Unit :=
  match entry, tree.get? target with
  | .directory, some .directory =>
    if tree.names target = [] then .ok () else .error .notEmpty
  | .directory, some _ => .error .notDirectory
  | .directory, none => if source.isSuffixOf target then .error .invalidArgument else .ok ()
  | _, some .directory => .error .isDirectory
  | _, _ => .ok ()

def rename (tree : Tree) (source target : Path) : Except IoError Tree := do
  match ← tree.place source, ← tree.place target with
  | some old, some new =>
    match tree.get? old with
    | none => .error .notFound
    | some entry =>
      if old = new then .ok tree
      else do
        tree.mayReplace old new entry
        .ok ((tree.remove new).move old new)
  | _, _ => .error .invalidArgument

/-- The answer and the tree after a call that changes the tree or fails. -/
def changed (tree : Tree) : Except IoError Tree → Except IoError Unit × Tree
  | .ok next => (.ok (), next)
  | .error e => (.error e, tree)

def answer : Handler calls Tree
  | .makeDir path, tree => tree.changed (tree.makeDir path)
  | .isDir path, tree => (tree.isDir path, tree)
  | .list path, tree => (tree.list path, tree)
  | .read path, tree => (tree.read path, tree)
  | .create path, tree => tree.changed (tree.create path)
  | .fill path content, tree => tree.changed (tree.fill path (Text.octets content))
  | .rename source target, tree => tree.changed (tree.rename source target)

end SchemaLedger.Files.Tree
