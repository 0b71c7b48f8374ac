import SchemaLedger.Proofs.Directory.Labels
import SchemaLedger.Proofs.Directory.Writing

/-! # Histories of a directory

Any sequence of commands, begun where nothing was, leaves one file for each migration that a command
has created. A scan finds them all unless a directory is among them or the path of one is too long
for the system. -/

namespace SchemaLedger.Directory

open Files (Call Fits IoError Location Tree)

/-! ## Commands -/

inductive Command where
  | setUp
  | newFile (id? : Option Ident) (description : String) (template? : Option String)
  | renumber (write : Bool)
  deriving DecidableEq, Repr

namespace Command

def task (dir : Path) : Command → Task Failure Unit
  | setUp => do
    let _ ← Directory.setUp dir
    pure ()
  | newFile id? description template? => do
    let _ ← Directory.newFile dir id? description template?
    pure ()
  | renumber write => do
    let _ ← Directory.renumber dir write
    pure ()

/-- What a command has created if it succeeds at some time. -/
def creates (now : Int) : Command → List Made
  | setUp => [.bootstrap]
  | newFile id? description template? =>
    match newId now id? with
    | .ok id => [.described id description template?]
    | .error _ => []
  | renumber _ => []

def record (now : Int) (command : Command) (made : List Made) : Except Failure Unit → List Made
  | .ok _ => made ++ command.creates now
  | .error _ => made

end Command

/-- The trees that commands lead to, each with the migrations that have been created. -/
inductive Reached (dir : Path) (start : Tree) : Tree → List Made → Prop
  | start : Reached dir start start []
  | command {tree after : Tree} {made : List Made} {result : Except Failure Unit}
      (h : Reached dir start tree made) (now : Int) (command : Command)
      (runs : Program.Runs (workshop now) (command.task dir).run tree result after) :
    Reached dir start after (command.record now made result)

theorem Reached.run {dir : Path} {start tree : Tree} {made : List Made}
    (h : Reached dir start tree made) (now : Int) (command : Command)
    {result : Except Failure Unit} {after : Tree}
    (ends : Program.run (atWork now) (command.task dir).run tree = (result, after)) :
    Reached dir start after (command.record now made result) := by
  have hruns := Program.runs_of_handler (atWork_answers now) (command.task dir).run tree
  rw [ends] at hruns
  exact .command h now command hruns

/-! ## Runs where nothing is refused -/

section Runs

variable {now : Int} {tree after : Tree} {dir : Path}

theorem run_discarding {α : Type} {task : Task Failure α} {value : α}
    (h : Program.run (atWork now) task.run tree = (.ok value, after)) :
    Program.run (atWork now) (task >>= fun _ => pure () : Task Failure Unit).run tree =
      (.ok (), after) := by
  rw [Task.run_bind, h]
  rfl

theorem run_renaming {r : Renaming} (renamed : tree.rename r.source r.target = .ok after) :
    Program.run (atWork now) (renameEach [r]).run tree = (.ok (), after) := by
  have hanswer : atWork now (.files (.rename r.source r.target)) tree = (.ok (), after) := by
    rw [atWork, Tree.answer, renamed]
    rfl
  rw [renameEach, Task.run_bind, Task.run_files, hanswer]
  rfl

theorem run_renumbering {ms : List Migration} (finds : Finds (.ofTree tree) dir ms)
    (present : ms.isEmpty = false)
    (renamed : Program.run (atWork now) (renameEach (renamings ms)).run tree = (.ok (), after)) :
    Program.run (atWork now) (renumber dir true).run tree = (.ok (renamings ms), after) := by
  rw [renumber, Task.run_bind, run_scan finds]
  simp only [present, Bool.false_eq_true, if_false, if_true]
  rw [Task.run_bind, renamed]
  rfl

end Runs

/-! ## Beginnings -/

/-- Nothing is in any directory that a path names or comes to name when directories are made. -/
def Blank (start : Tree) (dir : Path) : Prop :=
  ∀ tree loc, Founded start tree → tree.resolve dir = .ok loc → tree.isDirectory loc = true →
    start.names loc = []

variable {now : Int} {start tree : Tree} {dir : Path} {loc : Location} {made : List Made}

theorem blank_of_empty (resolves : start.resolve dir = .ok loc)
    (present : start.isDirectory loc = true) (empty : start.names loc = []) : Blank start dir := by
  intro tree loc' founded hresolve hdir
  have hstart := (Tree.denotes_iff.mpr ⟨resolves, present⟩).mono founded.keeps
  rw [(Tree.denotes_iff.mpr ⟨hresolve, hdir⟩).unique hstart]
  exact empty

theorem isDir_iff : tree.isDir dir = true ↔ ∃ loc, tree.Denotes dir loc := by
  rw [Tree.isDir]
  cases hresolve : tree.resolve dir with
  | error error =>
      simp only [Bool.false_eq_true, false_iff, not_exists]
      intro loc h
      cases hresolve.symm.trans (Tree.denotes_iff.mp h).1
  | ok loc =>
      constructor
      · intro hdir
        exact ⟨loc, Tree.denotes_iff.mpr ⟨hresolve, hdir⟩⟩
      · rintro ⟨loc', h⟩
        obtain ⟨hresolve', hdir⟩ := Tree.denotes_iff.mp h
        cases hresolve.symm.trans hresolve'
        exact hdir

theorem stocked_of_founded (proper : start.Proper) (blank : Blank start dir)
    (founded : Founded start tree) (denotes : tree.Denotes dir loc)
    (whole : start.isDir dir = true → tree = start) :
    Stocked (start.isDir dir = true) tree dir loc [] := by
  obtain ⟨hresolve, hdir⟩ := Tree.denotes_iff.mp denotes
  have hnone : start.entriesIn loc = [] := by
    have hnames := blank tree loc founded hresolve hdir
    rw [Tree.names_eq] at hnames
    exact List.map_eq_nil_iff.mp hnames
  have hadded : ∀ x ∈ tree.entriesIn loc, x.2 = .directory ∧ Fits x.1 := by
    obtain ⟨added, hentries, hadded⟩ := founded.exists_added loc
    rw [hentries, hnone]
    exact hadded
  have hfiles : filesIn tree loc = [] := by
    refine List.filterMap_eq_nil_iff.mpr ?_
    intro x hx
    rw [(hadded x hx).1]
  refine ⟨founded.proper proper, denotes, ?_, fun x hx => (hadded x hx).2,
    fun x hx => .inl (hadded x hx).1, ?_, List.nodup_nil, nofun⟩
  · rw [hfiles]
    exact .nil
  · intro hpresent x hx
    rw [whole hpresent, hnone] at hx
    cases hx

/-! ## All histories -/

/-- Either the directory is stocked, or there is none and nothing has been created. -/
inductive Tended (start : Tree) (dir : Path) : Tree → List Made → Prop
  | settled {tree : Tree} {loc : Location} {made : List Made}
      (h : Stocked (start.isDir dir = true) tree dir loc made) : Tended start dir tree made
  | unsettled {tree : Tree} (founded : Founded start tree) (absent : ¬ ∃ loc, tree.Denotes dir loc) :
    Tended start dir tree []

theorem exists_denotes {found : List Migration} (h : Finds (.ofTree tree) dir found) :
    ∃ loc, tree.Denotes dir loc := by
  obtain ⟨entries, hlist, _⟩ := h
  obtain ⟨loc, hdenotes, _⟩ := denotes_of_list hlist
  exact ⟨loc, hdenotes⟩

theorem meets_scan_absent {α : Type} (absent : ¬ ∃ loc, tree.Denotes dir loc)
    (next : List Migration → Task Failure α) {ends : Except Failure α → Tree → Prop}
    (h : ∀ failure, ends (.error failure) tree) :
    Program.Meets (workshop now) (scan dir >>= next).run ends tree := by
  rw [Task.meets_bind]
  refine meets_scanning (shows_workshop now tree) dir ?_ fun failure _ => h failure
  intro found finds
  exact absurd (exists_denotes finds) absent

section Commands

variable (proper : start.Proper) (blank : Blank start dir)

include proper blank

theorem tended_start : Tended start dir start [] := by
  by_cases hpresent : ∃ loc, start.Denotes dir loc
  · obtain ⟨loc, hloc⟩ := hpresent
    exact .settled (stocked_of_founded proper blank .start hloc fun _ => rfl)
  · exact .unsettled .start hpresent

theorem tended_of_founded (absent : ¬ ∃ loc, start.Denotes dir loc) (founded : Founded start tree) :
    Tended start dir tree [] := by
  by_cases hpresent : ∃ loc, tree.Denotes dir loc
  · obtain ⟨loc, hloc⟩ := hpresent
    exact .settled (stocked_of_founded proper blank founded hloc
      fun hdir => absurd (isDir_iff.mp hdir) absent)
  · exact .unsettled founded hpresent

theorem Tended.meets_makeAll (h : Tended start dir tree made) :
    Program.Meets (workshop now) (makeAll dir).run (fun _ after => Tended start dir after made)
      tree := by
  cases h with
  | settled h =>
      refine (meets_makeAll_of_leads (serves_workshop now) h.denotes.leads).mono ?_
      rintro _ _ rfl
      exact .settled h
  | unsettled founded absent =>
      refine (founded.meets_makeAll (serves_workshop now) dir).mono fun _ _ hafter => ?_
      refine tended_of_founded proper blank ?_ hafter
      rintro ⟨loc, hloc⟩
      exact absent ⟨loc, hloc.mono founded.keeps⟩

omit proper blank

theorem Tended.meets_creation (h : Tended start dir tree made) {m : Made}
    (clean : Slug.Clean m.slug) (width : List Migration → Nat) (event : Path → Event) :
    Program.Meets (workshop now) (creation dir m width event).run
      (Creates (Tended start dir) made m) tree := by
  cases h with
  | settled h =>
      refine (Directory.meets_creation h clean width event).mono ?_
      intro result after hafter
      cases result <;> exact .settled hafter
  | unsettled founded absent =>
      exact meets_scan_absent absent _ fun _ => .unsettled founded absent

/-- One command keeps the directory tended. -/
theorem Tended.meets_command (proper : start.Proper) (blank : Blank start dir)
    (h : Tended start dir tree made) (command : Command) :
    Program.Meets (workshop now) (command.task dir).run
      (fun result after => Tended start dir after (command.record now made result)) tree := by
  cases command with
  | setUp =>
      rw [Command.task, setUp_eq, Task.meets_bind, Task.meets_bind, Task.meets_adapt]
      refine (h.meets_makeAll proper blank).mono ?_
      intro result after hafter
      cases result with
      | error error => exact hafter
      | ok =>
          refine (hafter.meets_creation clean_bootstrap _ _).mono ?_
          intro result after hafter
          cases result <;> exact hafter
  | newFile id? description template? =>
      rw [Command.task, Task.meets_bind]
      refine meets_newFile (clock_workshop now tree) ?_ fun _ => h
      intro id hid
      have hcreates : (Command.newFile id? description template?).creates now =
          [.described id description template?] := by rw [Command.creates, hid]
      refine (h.meets_creation (clean_described id description template?) _ _).mono ?_
      intro result after hafter
      cases result with
      | ok path =>
          change Tended start dir after (made ++ Command.creates now _)
          rw [hcreates]
          exact hafter
      | error failure => exact hafter
  | renumber write =>
      rw [Command.task, Task.meets_bind]
      cases h with
      | settled h =>
          refine (meets_renumber h write).mono ?_
          intro result after hafter
          cases result with
          | ok renamings =>
              change Tended start dir after (made ++ [])
              rw [List.append_nil]
              exact .settled hafter
          | error failure => exact .settled hafter
      | unsettled founded absent =>
          exact meets_scan_absent absent _ fun _ => .unsettled founded absent

theorem Reached.tended (proper : start.Proper) (blank : Blank start dir)
    (h : Reached dir start tree made) : Tended start dir tree made := by
  induction h with
  | start => exact tended_start proper blank
  | command _ now command runs ih => exact runs.ends (ih.meets_command proper blank command)

end Commands

/-- What is in a directory where some migrations have been created. -/
structure Authored (start tree : Tree) (dir : Path) (loc : Location) (made : List Made) :
    Prop where
  /-- No ID has been created twice. -/
  distinct : (made.map (·.id)).Nodup
  /-- Each file is one of the migrations created, and each of these has one file. -/
  files : List.Forall₂ Made.Filed made (filesIn tree loc)
  others : ∀ x ∈ tree.entriesIn loc, x.2 = .directory ∨ ∃ content, x.2 = .file content
  undivided : start.isDir dir = true → ∀ x ∈ tree.entriesIn loc, x.2 ≠ .directory
  scannable : (∃ found, seen (.ofTree tree) dir = .ok found) ↔
    (∀ x ∈ tree.entriesIn loc, x.2 ≠ .directory) ∧
      ∀ name ∈ tree.names loc, (dir.join name).octets.length < Tree.pathLimit
  found : ∀ found, seen (.ofTree tree) dir = .ok found → found.map Made.of = made

/-- However a directory came about, it holds the migrations that have been created, and as long as
there is no directory in it and no path to a file is too long, a scan finds them. -/
theorem reached_authored (proper : start.Proper) (blank : Blank start dir)
    (reached : Reached dir start tree made) (resolves : tree.resolve dir = .ok loc)
    (present : tree.isDirectory loc = true) : Authored start tree dir loc made := by
  have hdenotes := Tree.denotes_iff.mpr ⟨resolves, present⟩
  cases reached.tended proper blank with
  | unsettled _ absent => exact absurd ⟨loc, hdenotes⟩ absent
  | settled h =>
      cases h.denotes.unique hdenotes
      refine ⟨h.distinct, h.files, h.others, h.whole, ?_, ?_⟩
      · simp only [seen_eq_ok]
        exact h.finds_iff
      · intro found hfound
        exact h.found_eq (seen_eq_ok.mp hfound)

/-! ## A history -/

def filled (names : List String) : Tree :=
  ⟨([Text.octets "m"], .directory) :: names.map fun name =>
    ([Text.octets name, Text.octets "m"], .file (Text.octets Bootstrap.placeholder)), []⟩

theorem isDirectory_filled (names : List String) :
    (filled names).isDirectory [Text.octets "m"] = true := by
  simp [Tree.isDirectory, Tree.get?, filled]

theorem add_filled (names : List String) (name : String) :
    (filled names).add [Text.octets name, Text.octets "m"]
      (.file (Text.octets Bootstrap.placeholder)) = filled (names ++ [name]) := by
  simp [Tree.add, filled]

theorem mem_filled {names : List String} {entry : Files.Entry} :
    (loc, entry) ∈ (filled names).entries ↔ loc = [Text.octets "m"] ∧ entry = .directory ∨
      ∃ name ∈ names, loc = [Text.octets name, Text.octets "m"] ∧
        entry = .file (Text.octets Bootstrap.placeholder) := by
  simp only [filled, List.mem_cons, Prod.mk.injEq, List.mem_map]
  refine or_congr_right (exists_congr fun name => and_congr_right fun _ => ?_)
  exact ⟨fun h => ⟨h.1.symm, h.2.symm⟩, fun h => ⟨h.1.symm, h.2.symm⟩⟩

theorem filled_sound {names : List String} (distinct : (names.map Text.octets).Nodup)
    (fits : ∀ name ∈ names, Fits (Text.octets name)) : (filled names).Sound := by
  have hroot : (filled names).isDirectory [] = true := rfl
  refine ⟨⟨?_, ?_⟩, ?_⟩
  · have hfiles : (names.map fun name => [Text.octets name, Text.octets "m"]).Nodup := by
      have hmap := distinct.map (f := fun name => [name, Text.octets "m"]) fun _ _ h =>
        (List.cons.inj h).1
      rwa [List.map_map] at hmap
    have hlocations : (filled names).entries.map (·.1) =
        [Text.octets "m"] :: names.map fun name => [Text.octets name, Text.octets "m"] := by
      rw [filled, List.map_cons, List.map_map]
      rfl
    rw [hlocations, List.nodup_cons]
    refine ⟨?_, hfiles⟩
    intro hmem
    obtain ⟨name, _, hname⟩ := List.mem_map.mp hmem
    exact absurd (congrArg List.length hname) (by simp)
  · intro loc entry h
    rcases mem_filled.mp h with ⟨rfl, _⟩ | ⟨name, _, rfl, _⟩
    · exact ⟨_, _, rfl, hroot⟩
    · exact ⟨_, _, rfl, isDirectory_filled names⟩
  · intro loc name h
    rw [Tree.names_eq] at h
    obtain ⟨⟨_, entry⟩, hmem, rfl⟩ := List.mem_map.mp h
    dsimp only
    rcases mem_filled.mp (Tree.mem_entriesIn.mp hmem) with ⟨heq, _⟩ | ⟨name, hname, heq, _⟩
    · rw [(List.cons.inj heq).1]
      decide
    · rw [(List.cons.inj heq).1]
      exact fits name hname

theorem filled_nil_proper : (filled []).Proper := (filled_sound (by decide) (by decide)).proper

def used : Tree :=
  ⟨[([Text.octets "m"], .directory),
    ([Text.octets "12-add_users.sql", Text.octets "m"], .file (Text.octets Bootstrap.placeholder)),
    ([Text.octets "07-x.sql", Text.octets "m"], .file (Text.octets "select 7;")),
    ([Text.octets "0-init.sql", Text.octets "m"], .file (Text.octets Bootstrap.sql))], []⟩

/-- The ID of the last migration but one is refused at first, and the directory is set up last. -/
theorem reached_authored_used :
    Authored (filled []) used (.ofText "m") [Text.octets "m"]
      [⟨⟨12, by decide⟩, "add_users", Bootstrap.placeholder⟩, ⟨⟨7, by decide⟩, "x", "select 7;"⟩,
        .bootstrap] := by
  let m : Path := .ofText "m"
  let first : Made := ⟨⟨12, by decide⟩, "add_users", Bootstrap.placeholder⟩
  let second : Made := ⟨⟨7, by decide⟩, "x", "select 7;"⟩
  have hnew : Program.run (atWork 0)
      ((Command.newFile (some ⟨12, by decide⟩) "add users" none).task m).run (filled []) =
      (.ok (), filled ["12-add_users.sql"]) := by decide +kernel
  have hagain : Program.run (atWork 0)
      ((Command.newFile (some ⟨12, by decide⟩) "x" none).task m).run
      (filled ["12-add_users.sql"]) =
      (.error (.duplicateId ⟨12, by decide⟩ "12-add_users.sql" "12-x.sql"),
        filled ["12-add_users.sql"]) := by decide +kernel
  have hgiven : Program.run (atWork 0)
      ((Command.newFile (some ⟨7, by decide⟩) "x" (some "select 7;")).task m).run
      (filled ["12-add_users.sql"]) = (.ok (), ⟨used.entries.dropLast, []⟩) := by decide +kernel
  have hmade : Program.run (atWork 0)
      ((makeAll m).adapt (Failure.makingDirectory m)).run ⟨used.entries.dropLast, []⟩ =
      (.ok (), ⟨used.entries.dropLast, []⟩) := by decide +kernel
  have hscan : Program.run (atWork 0) (scan m).run ⟨used.entries.dropLast, []⟩ =
      (.ok [⟨m.join (Text.octets "12-add_users.sql"), "12-add_users.sql", Bootstrap.placeholder,
          ⟨12, by decide⟩, "add_users", "12"⟩,
        ⟨m.join (Text.octets "07-x.sql"), "07-x.sql", "select 7;", ⟨7, by decide⟩, "x", "07"⟩],
        ⟨used.entries.dropLast, []⟩) := by decide +kernel
  have hname : FileName.write 0 Made.bootstrap.id Made.bootstrap.slug = "0-init.sql" := by
    decide +kernel
  have hsetUp : Program.run (atWork 0) (Command.setUp.task m).run ⟨used.entries.dropLast, []⟩ =
      (.ok (), used) := by
    rw [Command.task, setUp_eq, Task.run_bind, Task.run_bind, hmade]
    simp only [creation, hname]
    rw [Task.run_bind, hscan]
    rfl
  have hreached : Reached m (filled []) used [first, second, .bootstrap] :=
    (((Reached.start.run 0 _ hnew).run 0 _ hagain).run 0 _ hgiven).run 0 _ hsetUp
  exact reached_authored filled_nil_proper (blank_of_empty rfl rfl rfl) hreached rfl rfl

/-! ## Scans that fail -/

/-- A scan of the directory always succeeds, whatever has been done. -/
def AlwaysScanned (start : Tree) (dir : Path) : Prop :=
  ∀ tree made loc, Reached dir start tree made → tree.resolve dir = .ok loc →
    tree.isDirectory loc = true →
    ∃ found, seen (.ofTree tree) dir = .ok found ∧ (found.map Made.of).Perm made

/-- A path that leads through a directory in the one that it names. -/
def winding : Path := .ofText "m/x/.."

def wound : Tree :=
  ⟨[([Text.octets "m"], .directory), ([Text.octets "x", Text.octets "m"], .directory)], []⟩

theorem not_alwaysScanned_winding : ¬ AlwaysScanned ⟨[], []⟩ winding := by
  intro h
  have hsetUp : Program.run (atWork 0) (Command.setUp.task winding).run ⟨[], []⟩ =
      (.error (.invalidName "x"), wound) := rfl
  have hseen : seen (.ofTree wound) winding = .error (.invalidName "x") := rfl
  obtain ⟨found, hfound, _⟩ := h wound [] [Text.octets "m"] (Reached.start.run 0 _ hsetUp) rfl rfl
  cases hseen.symm.trans hfound

/-- A path to which a slash and ten octets can be added, but no more. -/
def lengthy : Path := ⟨Text.octets "m" ++ List.replicate 4084 Path.slash⟩

theorem spelled_lengthy : Tree.spelled lengthy = .ok () := by
  refine Tree.spelled_iff.mpr ⟨?_, List.append_ne_nil_of_left_ne_nil (by decide) _, ?_⟩
  · rw [lengthy, List.mem_append, List.mem_replicate]
    decide
  · rw [lengthy, List.length_append, List.length_replicate]
    decide

theorem length_lengthy_join {name : Name} (plain : Path.Plain name) :
    (lengthy.join name).octets.length = 4085 + name.length := by
  have hends : lengthy.endsInSlash = true := by
    rw [Path.endsInSlash, lengthy, List.replicate_succ', ← List.append_assoc, List.getLast?_concat]
    rfl
  rw [Path.join, if_neg plain.head_ne, hends, Bool.or_true, if_pos rfl, List.length_append, lengthy,
    List.length_append, List.length_replicate]
  rfl

theorem spelled_lengthy_join {name : Name} (fits : Fits name) :
    Tree.spelled (lengthy.join name) = .ok () ↔ name.length ≤ 10 := by
  have hlimit : Tree.pathLimit = 4085 + 11 := rfl
  rw [Tree.spelled_join spelled_lengthy fits, length_lengthy_join fits.plain, hlimit]
  omega

/-- For all its slashes it makes one move. -/
theorem lengthy_denotes (names : List String) :
    (filled names).Denotes lengthy [Text.octets "m"] := by
  have hsteps : lengthy.steps = [.down (Text.octets "m")] := by
    rw [lengthy, Path.steps_slashes]
    decide
  have hstart : (filled names).start lengthy = [] := ite_self _
  refine ⟨spelled_lengthy, ?_⟩
  rw [Tree.Leads, hsteps, hstart]
  exact .down rfl (by decide) (.here (isDirectory_filled names))

theorem opens_lengthy {names : List String} {name : Name} (fits : Fits name)
    (room : name.length ≤ 10) (fresh : (filled names).get? [name, Text.octets "m"] = none) :
    Opens (filled names) (lengthy.join name) [Text.octets "m"] name :=
  ⟨(lengthy_denotes names).leads.enters fits.plain, (spelled_lengthy_join fits).mpr room, fits.short,
    fresh⟩

-- Laws of paths carry this, since thousands of octets are slow to evaluate.
theorem reads_lengthy {names : List String} {m : Migration}
    (path : m.path = lengthy.join (Text.octets m.name))
    (announces : heading (Text.octets m.name) = .ok ⟨m.name, m.id, m.slug, m.digits⟩)
    (fits : Fits (Text.octets m.name)) (room : (Text.octets m.name).length ≤ 10)
    (found : (filled names).get? [Text.octets m.name, Text.octets "m"] =
      some (.file (Text.octets m.content))) :
    Reads (.ofTree (filled names)) lengthy (Text.octets m.name) m := by
  refine ⟨announces, path, ?_⟩
  change (filled names).read m.path = _
  rw [path, Tree.read_file ((lengthy_denotes names).leads.enters fits.plain) fits.short found,
    (spelled_lengthy_join fits).mpr room]
  rfl

def fifth : Migration :=
  ⟨lengthy.join (Text.octets "5-aaaa.sql"), "5-aaaa.sql", Bootstrap.placeholder, ⟨5, by decide⟩,
    "aaaa", "5"⟩

def later : Migration :=
  ⟨lengthy.join (Text.octets "123-b.sql"), "123-b.sql", Bootstrap.placeholder, ⟨123, by decide⟩,
    "b", "123"⟩

theorem reads_fifth {names : List String} :
    Reads (.ofTree (filled ("5-aaaa.sql" :: names))) lengthy (Text.octets fifth.name) fifth :=
  reads_lengthy (by rw [fifth]) rfl (by decide) (by decide) rfl

theorem lengthy_found :
    Finds (.ofTree (filled ["5-aaaa.sql", "123-b.sql"])) lengthy [fifth, later] := by
  refine ⟨[Text.octets fifth.name, Text.octets later.name], list_of_denotes (lengthy_denotes _),
    .cons reads_fifth (.cons ?_ .nil), by decide⟩
  exact reads_lengthy (by rw [later]) rfl (by decide) (by decide) rfl

theorem run_newFile_lengthy {names : List String} {ms : List Migration}
    (finds : Finds (.ofTree (filled names)) lengthy ms) {id : Ident} {description name : String}
    (named : FileName.write (Migration.maxWidth ms) id (Slug.ofText description) = name)
    (new : vacant id name ms = .ok ()) (fits : Fits (Text.octets name))
    (room : (Text.octets name).length ≤ 10)
    (fresh : (filled names).get? [Text.octets name, Text.octets "m"] = none) :
    Program.run (atWork 0) ((Command.newFile (some id) description none).task lengthy).run
      (filled names) = (.ok (), filled (names ++ [name])) := by
  rw [← add_filled]
  exact run_discarding ((opens_lengthy fits room fresh).run_newFile finds named new none)

theorem rename_lengthy : (filled ["5-aaaa.sql", "123-b.sql"]).rename (padding 3 fifth).source
    (padding 3 fifth).target = .ok (filled ["005-aaaa.sql", "123-b.sql"]) := by
  have hsource : (padding 3 fifth).source = lengthy.join (Text.octets "5-aaaa.sql") := by
    rw [padding, fifth]
  have htarget : (padding 3 fifth).target =
      (Path.ofText "m").join (Text.octets "005-aaaa.sql") := by decide +kernel
  have hfits : Fits (Text.octets "5-aaaa.sql") := by decide
  have hfits' : Fits (Text.octets "005-aaaa.sql") := by decide
  have hsound : (filled ["5-aaaa.sql", "123-b.sql"]).Sound := filled_sound (by decide) (by decide)
  have hdenotes : (filled ["5-aaaa.sql", "123-b.sql"]).Denotes (.ofText "m") [Text.octets "m"] :=
    Tree.denotes_iff.mpr ⟨by decide +kernel, isDirectory_filled _⟩
  have hrenamed := Tree.rename_eq hsound.proper ((lengthy_denotes _).leads.enters hfits.plain)
    (hdenotes.leads.enters hfits'.plain) ((spelled_lengthy_join hfits).mpr (by decide))
    (by decide +kernel) hfits.short hfits'.short rfl (by decide) rfl
  rw [hsource, htarget, hrenamed]
  decide +kernel

theorem run_renumber_lengthy : Program.run (atWork 0) (renumber lengthy true).run
    (filled ["5-aaaa.sql", "123-b.sql"]) =
      (.ok [padding 3 fifth], filled ["005-aaaa.sql", "123-b.sql"]) := by
  have hsorted : Migration.sortById [fifth, later] = [fifth, later] :=
    List.mergeSort_of_pairwise (by decide)
  have hwidth : Migration.maxWidth [fifth, later] = 3 := by decide +kernel
  have hneeded : renamings [fifth, later] = [padding 3 fifth] := by
    rw [renamings, hsorted, hwidth]
    rfl
  rw [← hneeded]
  refine run_renumbering lengthy_found rfl ?_
  rw [hneeded]
  exact run_renaming rename_lengthy

theorem lengthy_unseen {found : List Migration} :
    seen (.ofTree (filled ["005-aaaa.sql", "123-b.sql"])) lengthy ≠ .ok found := by
  intro hfound
  have hreads := names_of_finds (lengthy_denotes _) (seen_eq_ok.mp hfound)
  have hname : Text.octets "005-aaaa.sql" ∈
      (filled ["005-aaaa.sql", "123-b.sql"]).names [Text.octets "m"] := List.mem_cons_self
  obtain ⟨m, _, hm⟩ := exists_related hreads.flip hname
  have hfits : Fits (Text.octets "005-aaaa.sql") := by decide
  have hread : (filled ["005-aaaa.sql", "123-b.sql"]).read
      (lengthy.join (Text.octets "005-aaaa.sql")) = .ok (Text.octets m.content) :=
    hm.path ▸ hm.content
  have henters := (lengthy_denotes ["005-aaaa.sql", "123-b.sql"]).leads.enters hfits.plain
  have hspelled := (Tree.eq_of_read_file henters rfl hread).2
  exact absurd ((spelled_lengthy_join hfits).mp hspelled) (by decide)

theorem not_alwaysScanned_lengthy : ¬ AlwaysScanned (filled []) lengthy := by
  intro h
  have hnone : Finds (.ofTree (filled [])) lengthy [] :=
    ⟨[], list_of_denotes (lengthy_denotes []), .nil, List.nodup_nil⟩
  have hone : Finds (.ofTree (filled ["5-aaaa.sql"])) lengthy [fifth] :=
    ⟨[Text.octets fifth.name], list_of_denotes (lengthy_denotes _), .cons reads_fifth .nil,
      List.nodup_singleton _⟩
  have hfifth : Program.run (atWork 0)
      ((Command.newFile (some ⟨5, by decide⟩) "aaaa" none).task lengthy).run (filled []) =
      (.ok (), filled ["5-aaaa.sql"]) :=
    run_newFile_lengthy hnone (by decide +kernel) rfl (by decide) (by decide) rfl
  have hlater : Program.run (atWork 0)
      ((Command.newFile (some ⟨123, by decide⟩) "b" none).task lengthy).run
      (filled ["5-aaaa.sql"]) = (.ok (), filled ["5-aaaa.sql", "123-b.sql"]) :=
    run_newFile_lengthy hone (by decide +kernel) rfl (by decide) (by decide) rfl
  have hpadded : Program.run (atWork 0) (Command.task lengthy (.renumber true)).run
      (filled ["5-aaaa.sql", "123-b.sql"]) = (.ok (), filled ["005-aaaa.sql", "123-b.sql"]) :=
    run_discarding run_renumber_lengthy
  have hreached := ((Reached.start.run 0 _ hfifth).run 0 _ hlater).run 0 _ hpadded
  obtain ⟨hresolve, hdir⟩ := Tree.denotes_iff.mp (lengthy_denotes ["005-aaaa.sql", "123-b.sql"])
  obtain ⟨found, hfound, _⟩ := h _ _ _ hreached hresolve hdir
  exact lengthy_unseen hfound

/-- Scans may fail, where the directory did not exist and where it was empty. -/
theorem scan_may_fail :
    ((⟨[], []⟩ : Tree).Proper ∧ Blank ⟨[], []⟩ winding ∧ ¬ AlwaysScanned ⟨[], []⟩ winding) ∧
      (filled []).Proper ∧ Blank (filled []) lengthy ∧ ¬ AlwaysScanned (filled []) lengthy := by
  have hresolve := (Tree.denotes_iff.mp (lengthy_denotes [])).1
  refine ⟨⟨?_, ?_, not_alwaysScanned_winding⟩, filled_nil_proper, ?_, not_alwaysScanned_lengthy⟩
  · exact ⟨List.nodup_nil, fun loc entry h => by cases h⟩
  · exact fun tree loc founded resolves present => rfl
  · exact blank_of_empty hresolve rfl rfl

end SchemaLedger.Directory
