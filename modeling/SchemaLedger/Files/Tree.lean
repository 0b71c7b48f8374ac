import SchemaLedger.Path

/-! # File trees

A tree of directories as a list of entries, each with its location. The order of the list is the
order in which a directory lists its entries. -/

namespace SchemaLedger.Files

/-- The names that lead to an entry, its own name first and the outermost directory last. The
empty location is the root. -/
abbrev Location := List Name

inductive Entry where
  | file (content : Octets)
  | directory
  | link (target : Path)
  deriving DecidableEq, Repr

structure Tree where
  entries : List (Location × Entry)
  workDir : Location
  deriving DecidableEq, Repr

namespace Tree

def get? (tree : Tree) (loc : Location) : Option Entry :=
  if loc = [] then some .directory else tree.entries.lookup loc

def isDirectory (tree : Tree) (loc : Location) : Bool := tree.get? loc = some .directory

def names (tree : Tree) (loc : Location) : List Name :=
  tree.entries.filterMap fun (location, _) =>
    match location with
    | [] => none
    | name :: parent => if parent = loc then some name else none

/-- Replaces the entry at a location, or adds it after all others. -/
def put (tree : Tree) (loc : Location) (entry : Entry) : Tree :=
  if (tree.entries.lookup loc).isSome then
    { tree with entries := tree.entries.map fun old => if old.1 = loc then (loc, entry) else old }
  else { tree with entries := tree.entries ++ [(loc, entry)] }

/-- Removes the entry at a location and everything below it. -/
def remove (tree : Tree) (loc : Location) : Tree :=
  { tree with entries := tree.entries.filter fun old => !loc.isSuffixOf old.1 }

def relocate (source target location : Location) : Location :=
  if source.isSuffixOf location then
    location.take (location.length - source.length) ++ target
  else location

/-- Moves an entry and everything below it to a location where there is nothing. -/
def move (tree : Tree) (source target : Location) : Tree :=
  { tree with entries := tree.entries.map fun old => (relocate source target old.1, old.2) }

/-- A tree that holds nothing but a working directory of the given name. -/
def empty (name : Name) : Tree := ⟨[([name], .directory)], [name]⟩

end Tree

end SchemaLedger.Files
