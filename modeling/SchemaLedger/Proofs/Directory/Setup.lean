import SchemaLedger.Proofs.Directory.Authoring

/-! # The stages of a setup

A setup makes directories, scans, creates one file and writes it. What it may ask for next depends
on how far it has come: the rule below lists these calls, and a setup keeps to it however it is
answered. It creates its file only if it has read everything that it has listed and no name among
that announces ID 0. -/

namespace SchemaLedger.Directory

open Files (Call)

def Announces (name : Name) (id : Ident) : Prop := ∃ h, heading name = .ok h ∧ h.id = id

def bootstrapName : Name := Text.octets "0-init.sql"

theorem bootstrapName_eq : bootstrapName =
    Text.octets (FileName.write 0 Made.bootstrap.id Made.bootstrap.slug) := by
  decide +kernel

theorem bootstrapName_announces : Announces bootstrapName .first := by
  rw [bootstrapName_eq]
  exact ⟨_, heading_write 0 _ clean_bootstrap, rfl⟩

theorem plain_bootstrapName : Path.Plain bootstrapName := by
  rw [bootstrapName_eq]
  exact FileName.plain_write 0 _ clean_bootstrap

inductive Stage where
  | making
  /-- With the names that have been listed and the paths that have been read. -/
  | scanning (listed : List Name) (read : List Path)
  | writing
  | written
  deriving DecidableEq, Repr

namespace Stage

def Created : Stage → Prop
  | making | scanning .. => False
  | writing | written => True

/-- The stage after a call that has been answered. -/
def after : Stage → (request : Host.Call) → request.Answer → Stage
  | making, .files (.list _), .ok names => scanning names []
  | scanning listed read, .files (.read path), .ok _ => scanning listed (path :: read)
  | scanning .., .files (.create _), .ok _ => writing
  | writing, .files (.fill ..), .ok _ => written
  | stage, _, _ => stage

/-- Each listed entry has been read, and is of a migration with another ID than 0. -/
def Cleared (dir : Path) (listed : List Name) (read : List Path) : Prop :=
  ∀ name ∈ listed, dir.join name ∈ read ∧ ∃ h, heading name = .ok h ∧ h.id ≠ .first

/-- The calls that a setup may make. -/
inductive Rule (dir : Path) : Stage → Host.Call → Prop
  | makeDir {path} (above : path ∈ dir.ancestors) : Rule dir making (.files (.makeDir path))
  | isDir (path) : Rule dir making (.files (.isDir path))
  | list : Rule dir making (.files (.list dir))
  | read (listed read path) : Rule dir (scanning listed read) (.files (.read path))
  | create {listed read} (cleared : Cleared dir listed read) :
    Rule dir (scanning listed read) (.files (.create (dir.join bootstrapName)))
  | fill : Rule dir writing (.files (.fill (dir.join bootstrapName) Bootstrap.sql))
  | note (stage event) : Rule dir stage (.note event)

theorem Rule.list_inv {dir path : Path} {stage : Stage}
    (h : Rule dir stage (.files (.list path))) : stage = making ∧ path = dir := by
  cases h
  exact ⟨rfl, rfl⟩

theorem Rule.fill_inv {dir path : Path} {content : String} {stage : Stage}
    (h : Rule dir stage (.files (.fill path content))) :
    stage = writing ∧ path = dir.join bootstrapName ∧ content = Bootstrap.sql := by
  cases h
  exact ⟨rfl, rfl, rfl⟩

def around (dir : Path) : Surroundings host Stage where
  allows := Rule dir
  answers stage request answer next := next = stage.after request answer

/-- How a setup may end: if it succeeds, its file has been written. -/
def Ended (dir : Path) : Except Failure Path → Stage → Prop
  | .ok path, stage => path = dir.join bootstrapName ∧ stage = written
  | .error _, _ => True

variable {dir : Path} {listed names : List Name} {read : List Path}

/-! ## Scanning -/

def Seen (dir : Path) (read : List Path) (name : Name) (m : Migration) : Prop :=
  dir.join name ∈ read ∧ ∃ h, heading name = .ok h ∧ h.id = m.id

/-- If no migration that has been found has ID 0, the entries are cleared. -/
theorem cleared_of_seen {ms : List Migration} (seen : List.Forall₂ (Seen dir read) names ms)
    (vacant : .first ∉ ms.map (·.id)) : Cleared dir names read := by
  intro name hname
  obtain ⟨m, hm, hread, h, hheading, hid⟩ := exists_related seen.flip hname
  refine ⟨hread, h, hheading, ?_⟩
  intro hfirst
  exact vacant (List.mem_map.mpr ⟨m, hm, hid.symm.trans hfirst⟩)

theorem meets_readText (path : Path) {ends : Except Files.IoError String → Stage → Prop}
    (hok : ∀ content, ends (.ok content) (scanning listed (path :: read)))
    (herror : ∀ error stage, ends (.error error) stage) :
    Program.Meets (around dir) (Task.readText path).run ends (scanning listed read) := by
  rw [Task.readText, Task.meets_bind, Task.meets_files]
  refine ⟨.read listed read path, ?_⟩
  rintro answer _ rfl
  rw [Task.Then]
  cases answer with
  | error error => exact herror error _
  | ok bytes =>
      rw [Task.meets_ofExcept_ok, Task.meets_ofExcept]
      cases Files.decode bytes with
      | error error => exact herror error _
      | ok content => exact hok content

theorem meets_readEntry (name : Name) {ends : Except Failure Migration → Stage → Prop}
    (hok : ∀ m, Seen dir (dir.join name :: read) name m →
      ends (.ok m) (scanning listed (dir.join name :: read)))
    (herror : ∀ failure stage, ends (.error failure) stage) :
    Program.Meets (around dir) (readEntry dir name).run ends (scanning listed read) := by
  rw [readEntry]
  cases hheading : heading name with
  | error failure => exact herror failure _
  | ok h =>
      rw [Task.meets_ofExcept_ok, Task.meets_bind, Task.meets_adapt]
      refine meets_readText (dir.join name) ?_ fun error stage => herror _ stage
      intro content
      refine (Task.meets_bind (around dir) (Task.note _) _ ends _).mpr ?_
      refine ⟨.note _ _, ?_⟩
      rintro _ _ rfl
      exact hok _ ⟨List.mem_cons_self, h, hheading, rfl⟩

theorem meets_readEntries {ends : Except Failure (List Migration) → Stage → Prop}
    (hok : ∀ ms read', read ⊆ read' → List.Forall₂ (Seen dir read') names ms →
      ends (.ok ms) (scanning listed read'))
    (herror : ∀ failure stage, ends (.error failure) stage) :
    Program.Meets (around dir) (readEntries dir names).run ends (scanning listed read) := by
  induction names generalizing read ends with
  | nil => exact hok [] read (List.Subset.refl read) .nil
  | cons name rest ih =>
      rw [readEntries, Task.meets_bind]
      refine meets_readEntry name ?_ herror
      rintro m ⟨_, hheading⟩
      rw [Task.Then, Task.meets_bind]
      refine ih ?_ herror
      intro ms read' hmore hms
      have hread := hmore List.mem_cons_self
      exact hok (m :: ms) read' (List.subset_of_cons_subset hmore) (.cons ⟨hread, hheading⟩ hms)

theorem meets_scan {ends : Except Failure (List Migration) → Stage → Prop}
    (hok : ∀ ms listed read, List.Forall₂ (Seen dir read) listed ms →
      ends (.ok ms) (scanning listed read))
    (herror : ∀ failure stage, ends (.error failure) stage) :
    Program.Meets (around dir) (scan dir).run ends making := by
  rw [scan, Task.meets_bind, Task.meets_files]
  refine ⟨.list, ?_⟩
  rintro answer _ rfl
  rw [Task.Then]
  cases answer with
  | error error => exact herror _ _
  | ok names =>
      rw [Task.meets_ofExcept_ok, Task.meets_bind]
      refine meets_readEntries ?_ herror
      intro ms read _ hms
      rw [Task.Then, Task.meets_ofExcept]
      cases hdistinct : distinct ms with
      | error failure => exact herror failure _
      | ok found =>
          obtain ⟨rfl, _⟩ := distinct_eq_ok.mp hdistinct
          exact hok found names read hms

/-! ## Setting up -/

theorem meets_makeAll (dir : Path) :
    Program.Meets (around dir) (makeAll dir).run (fun _ stage => stage = making) making := by
  refine meets_makeAll_enduring ?_ ?_ rfl
  · rintro path hpath _ rfl
    exact ⟨.makeDir hpath, fun _ _ h => h⟩
  · rintro path _ rfl
    exact ⟨.isDir path, fun _ _ h => h⟩

theorem meets_creation (dir : Path) :
    Program.Meets (around dir) (creation dir .bootstrap (fun _ => 0) .wroteBootstrap).run
      (Ended dir) making := by
  rw [creation, Task.meets_bind]
  refine meets_scan ?_ fun _ _ => trivial
  intro ms listed read hms
  rw [Task.Then, Task.meets_bind, Task.meets_ofExcept]
  cases hvacant : vacant Made.bootstrap.id _ ms with
  | error failure => exact trivial
  | ok =>
      have hcleared := cleared_of_seen hms (vacant_eq_ok.mp hvacant)
      refine (Task.meets_bind _ _ _ _ _).mpr ?_
      rw [← bootstrapName_eq, writeNew, Task.meets_bind, Task.meets_files]
      refine ⟨.create hcleared, ?_⟩
      rintro answer _ rfl
      cases answer with
      | error error => exact trivial
      | ok =>
          refine (Task.meets_bind _ _ _ _ _).mpr ⟨.fill, ?_⟩
          rintro answer _ rfl
          cases answer with
          | error error => exact trivial
          | ok =>
              refine (Task.meets_bind _ _ _ _ _).mpr ⟨.note _ _, ?_⟩
              rintro _ _ rfl
              exact ⟨rfl, rfl⟩

theorem meets_setUp (dir : Path) :
    Program.Meets (around dir) (setUp dir).run (Ended dir) making := by
  rw [setUp_eq, Task.meets_bind, Task.meets_adapt]
  refine (meets_makeAll dir).mono ?_
  rintro result _ rfl
  cases result with
  | error error => exact trivial
  | ok => exact meets_creation dir

end Stage

end SchemaLedger.Directory
