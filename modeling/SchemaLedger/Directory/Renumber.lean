import SchemaLedger.Directory.Scan

/-! # Renumbering

Padding the IDs in file names to one width makes the order of the names that of the IDs. -/

namespace SchemaLedger.Directory

def padding (width : Nat) (m : Migration) : Renaming :=
  ⟨m.path, m.path.sibling (Text.octets (FileName.write width m.id m.slug))⟩

def isShort (width : Nat) (m : Migration) : Bool := m.digits.length < width

/-- The renamings that bring all migrations to the width of the largest ID, ascending by ID. -/
def renamings (ms : List Migration) : List Renaming :=
  let width := Migration.maxWidth ms
  ((Migration.sortById ms).filter (isShort width)).map (padding width)

def renameEach : List Renaming → Task Failure Unit
  | [] => pure ()
  | r :: rest => do
    Task.ofExcept (Failure.movingFile r) (← Task.files (.rename r.source r.target))
    Task.note (.renamed r)
    renameEach rest

/-- The renamings a directory needs, carried out if `write` is set. -/
def renumber (dir : Path) (write : Bool) : Task Failure (List Renaming) := do
  let ms ← scan dir
  if ms.isEmpty then pure []
  else
    let needed := renamings ms
    if write then renameEach needed else Task.note (.leftNames needed.length)
    pure needed

end SchemaLedger.Directory
