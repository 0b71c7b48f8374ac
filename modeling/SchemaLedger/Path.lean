import SchemaLedger.Text.Octets
import SchemaLedger.Text.Split

/-! # Paths

A path is a spelling: octets with slashes between the names. Joining and taking parents work on
the spelling alone and never look at the file system. -/

namespace SchemaLedger

abbrev Name := Octets

structure Path where
  octets : Octets
  deriving DecidableEq, Repr

namespace Path

def slash : UInt8 := 0x2F
def dot : Name := [0x2E]
def dotDot : Name := [0x2E, 0x2E]

def ofText (s : String) : Path := ⟨Text.octets s⟩

def text (p : Path) : String := Text.lossy p.octets

def empty : Path := ⟨[]⟩

def root : Path := ⟨[slash]⟩

def isAbsolute (p : Path) : Bool := p.octets.head? == some slash

def endsInSlash (p : Path) : Bool := p.octets.getLast? == some slash

/-- An entry of a directory. An absolute second part stands alone. -/
def join (p : Path) (name : Name) : Path :=
  if name.head? = some slash then ⟨name⟩
  else if p.octets = [] || p.endsInSlash then ⟨p.octets ++ name⟩
  else ⟨p.octets ++ slash :: name⟩

/-- The parts between slashes, empty ones included. -/
def parts (p : Path) : List Name := Text.split slash p.octets

def ofParts (names : List Name) : Path := ⟨Text.unsplit slash names⟩

/-- From the last part on, skips parts that name nothing: empty ones and single dots. The first
part of a path always counts. -/
def dropIdle : List Name → List Name
  | [] => []
  | [part] => [part]
  | part :: rest => if part = [] ∨ part = dot then dropIdle rest else part :: rest

/-- The path without its last part that counts; nothing for a root and for the empty path. -/
def parent? (p : Path) : Option Path :=
  match dropIdle p.parts.reverse with
  | [] => none
  | [part] => if part = [] then none else some empty
  | _ :: rest =>
    match dropIdle rest with
    | [[]] => some root
    | parts => some (ofParts parts.reverse)

def sibling (p : Path) (name : Name) : Path := (p.parent?.getD empty).join name

/-- The path, its parent, the parent of that, and so on. -/
def ancestors (p : Path) : List Path := climb p.parts.length p
where
  climb : Nat → Path → List Path
    | 0, p => [p]
    | n + 1, p =>
      match p.parent? with
      | some q => p :: climb n q
      | none => [p]

inductive Step where
  | stay
  | up
  | down (name : Name)
  deriving DecidableEq, Repr

/-- The moves that a path spells; empty parts are no moves. -/
def steps (p : Path) : List Step :=
  p.parts.filterMap fun part =>
    if part = [] then none
    else if part = dot then some .stay
    else if part = dotDot then some .up
    else some (.down part)

end Path

end SchemaLedger
