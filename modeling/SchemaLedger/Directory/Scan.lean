import SchemaLedger.Host

/-! # Scanning a directory

A scan reads every file of the migrations directory. One entry that does not fit fails the whole
scan, and so do two files of one ID. -/

namespace SchemaLedger.Directory

/-- The migration that an entry's name announces, without its content. -/
structure Heading where
  name : String
  id : Ident
  slug : String
  digits : String
  deriving DecidableEq, Repr

def heading (entry : Name) : Except Failure Heading :=
  match Text.ofOctets? entry with
  | none => .error (.invalidName (Text.lossy entry))
  | some name =>
    match FileName.read? name with
    | none => .error (.invalidName name)
    | some parts =>
      match Ident.parse parts.digits with
      | .error error => .error (.ident error)
      | .ok id => .ok ⟨name, id, parts.slug, parts.digits⟩

def readEntry (dir : Path) (entry : Name) : Task Failure Migration := do
  let h ← Task.ofExcept id (heading entry)
  let path := dir.join entry
  let content ← (Task.readText path).adapt (Failure.reading path)
  Task.note (.foundMigration h.id h.name)
  pure ⟨path, h.name, content, h.id, h.slug, h.digits⟩

def readEntries (dir : Path) : List Name → Task Failure (List Migration)
  | [] => pure []
  | entry :: rest => do
    let migration ← readEntry dir entry
    let others ← readEntries dir rest
    pure (migration :: others)

/-- The first migration with the ID of one before it, and that one. -/
def firstDuplicate : List Migration → List Migration → Option (Migration × Migration)
  | _, [] => none
  | seen, m :: rest =>
    match seen.find? (·.id = m.id) with
    | some earlier => some (earlier, m)
    | none => firstDuplicate (m :: seen) rest

/-- The migrations themselves, if no two share an ID. Two that do are named in the order in which
they stand. -/
def distinct (ms : List Migration) : Except Failure (List Migration) :=
  match firstDuplicate [] ms with
  | some (earlier, later) => .error (.duplicateId later.id earlier.name later.name)
  | none => .ok ms

/-- Every migration of a directory, in the order in which the directory lists its entries. -/
def scan (dir : Path) : Task Failure (List Migration) := do
  let entries ← Task.ofExcept (Failure.listing dir) (← Task.files (.list dir))
  Task.ofExcept id (distinct (← readEntries dir entries))

end SchemaLedger.Directory
