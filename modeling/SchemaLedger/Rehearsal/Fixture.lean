import SchemaLedger.Rehearsal

/-! # Fixtures

Setting the scene of a rehearsal: files, directories and links put in place by hand, and a look
at what is there. A fixture that cannot be put in place changes nothing. -/

namespace SchemaLedger

namespace Files.Tree

/-- Where a file is written that moves from a directory lead to, whether or not it is there. Links
are followed, also one at the end. -/
def destination? (tree : Tree) : Nat → Location → List Path.Step → Option Location
  | 0, _, _ => none
  | links + 1, here, steps =>
    match tree.walk linkLimit here (steps.dropLast ++ [.stay]), steps.getLast? with
    | .ok parent, some (.down name) =>
      match tree.get? (name :: parent) with
      | some (.link target) =>
        destination? tree links (if target.isAbsolute then [] else parent) (route target)
      | some .directory => none
      | _ => if nameLimit < name.length then none else some (name :: parent)
    | _, _ => none

def write (tree : Tree) (path : Path) (content : Octets) : Tree :=
  match spelled path, tree.destination? (linkLimit + 1) (tree.start path) (route path) with
  | .ok (), some location => tree.put location (.file content)
  | _, _ => tree

def link (tree : Tree) (path target : Path) : Tree :=
  match tree.place path with
  | .ok (some location) =>
    if (tree.get? location).isSome then tree else tree.put location (.link target)
  | _ => tree

def unlink? (tree : Tree) (path : Path) : Option Tree :=
  match tree.place path with
  | .ok (some location) =>
    match tree.get? location with
    | some (.file _) | some (.link _) => some (tree.remove location)
    | _ => none
  | _ => none

def spelling (location : Location) : Octets := (Path.ofParts location.reverse).octets

/-- What is no migration comes first in a listing, and directories last. -/
def rank : Location × Entry → Nat
  | (_, .directory) => 2
  | (name :: _, _) => if (Directory.heading name).isOk then 1 else 0
  | ([], _) => 0

/-- Whether an entry is listed before another. Migrations follow each other by octets, all else the
other way round. -/
def listedBefore (a b : Location × Entry) : Bool :=
  if rank a = rank b then
    if rank a = 1 then (spelling a.1).precedes (spelling b.1)
    else (spelling b.1).precedes (spelling a.1)
  else rank a < rank b

/-- Makes every directory list its entries in a fixed order. Only which of several faults of a
directory is met first depends on it, and which of two migrations of one ID is named first. -/
def settled (tree : Tree) : Tree :=
  { tree with entries := tree.entries.mergeSort listedBefore }

/-- The path from the working directory to an entry below it; that of a directory ends with a
slash. -/
def shown? (tree : Tree) (location : Location) (entry : Entry) : Option Octets :=
  if location ≠ tree.workDir && tree.workDir.isSuffixOf location then
    let path := spelling (location.take (location.length - tree.workDir.length))
    some (if entry = .directory then path ++ [Path.slash] else path)
  else none

def paths (tree : Tree) : List Octets :=
  (tree.entries.filterMap fun (location, entry) => tree.shown? location entry).mergeSort
    Octets.precedes

end Files.Tree

namespace Rehearsal

def fresh (ledger : Option (List Store.Claim)) (faults : List Store.Fault) (clock : Int) :
    Rehearsal :=
  ⟨.empty (Text.octets "work"), .ofLedger ledger faults, clock, [], []⟩

def makeDirs (dir : Path) (r : Rehearsal) : Rehearsal := (perform (Directory.makeAll dir) r).2

def makeParents (path : Path) (r : Rehearsal) : Rehearsal :=
  match path.parent? with
  | some dir => makeDirs dir r
  | none => r

def putFile (path : Path) (content : Octets) (r : Rehearsal) : Rehearsal :=
  let r := makeParents path r
  { r with tree := r.tree.write path content }

def putLink (path target : Path) (r : Rehearsal) : Rehearsal :=
  let r := makeParents path r
  { r with tree := r.tree.link path target }

def next (r : Rehearsal) : Rehearsal :=
  { r with
    tree := r.tree.settled
    store := { r.store with trace := [] }
    events := []
    output := [] }

end Rehearsal

end SchemaLedger
