import SchemaLedger.Proofs.Directory.Growth
import SchemaLedger.Proofs.Listing

/-! # Adding a migration

Whatever a migration is called, its file becomes an entry of the directory, and nothing else changes.
A scan then finds it besides the migrations that were there. -/

namespace SchemaLedger.Directory

open Files (Location Tree)

/-! ## One more file -/

section Finds

variable {tree : Tree} {dir : Path} {loc : Location} {found : List Migration} {name : Name}

theorem Finds.concat (finds : Finds (.ofTree tree) dir found) (denotes : tree.Denotes dir loc)
    {entry : Files.Entry} {m : Migration}
    (reads : Reads (.ofTree (tree.add (name :: loc) entry)) dir name m)
    (new : m.id ∉ found.map (·.id)) :
    Finds (.ofTree (tree.add (name :: loc) entry)) dir (found ++ [m]) := by
  have grown := Tree.extends_add tree (name :: loc) entry
  obtain ⟨_, _, _, hdistinct⟩ := id finds
  refine ⟨tree.names loc ++ [name], ?_, ?_, ?_⟩
  · rw [← Tree.names_add tree name loc entry]
    exact list_of_denotes (denotes.mono grown.keeps)
  · have hold : List.Forall₂ (Reads (.ofTree (tree.add (name :: loc) entry)) dir)
        (tree.names loc) found :=
      (names_of_finds denotes finds).imp fun _ _ h => ⟨h.heading, h.path, grown.read h.content⟩
    exact List.rel_append hold (.cons reads .nil)
  · rw [List.map_append]
    refine hdistinct.append (List.nodup_singleton _) ?_
    intro id hid hnew
    have hsame : id = m.id := List.mem_singleton.mp hnew
    exact new (hsame ▸ hid)

/-- No entry has the name of a migration whose ID is not found. -/
theorem Finds.fresh (finds : Finds (.ofTree tree) dir found) (denotes : tree.Denotes dir loc)
    {h : Heading} (announces : heading h.entry = .ok h) (new : h.id ∉ found.map (·.id)) :
    tree.get? (h.entry :: loc) = none := by
  cases hentry : tree.get? (h.entry :: loc) with
  | none => rfl
  | some entry =>
      have hlisted : h.entry ∈ tree.names loc := by
        rw [Tree.names_eq]
        exact List.mem_map_of_mem
          (Tree.mem_entriesIn.mpr (Tree.mem_of_get? (List.cons_ne_nil _ _) hentry))
      obtain ⟨m, hm, hreads⟩ := exists_related (names_of_finds denotes finds).flip hlisted
      have hsame : Heading.of m = h := Except.ok.inj (hreads.heading.symm.trans announces)
      exact absurd (List.mem_map_of_mem hm) (hsame ▸ new)

theorem reads_added {h : Heading} (announces : heading h.entry = .ok h) (content : String)
    (opens : Opens tree (dir.join h.entry) loc h.entry) :
    Reads (.ofTree (tree.add (h.entry :: loc) (.file (Text.octets content)))) dir h.entry
      (h.migration dir content) := by
  refine ⟨announces, rfl, ?_⟩
  have hfound : (tree.add (h.entry :: loc) (.file (Text.octets content))).get? (h.entry :: loc) =
      some (.file (Text.octets content)) := Tree.get?_add_self opens.fresh
  have hread := Tree.read_file (opens.enters.mono (Tree.keeps_add tree _ _)) opens.short hfound
  rw [opens.spelled] at hread
  exact hread

end Finds

theorem vacant_cases (id : Ident) (name : String) (ms : List Migration) :
    (∃ existing ∈ ms, existing.id = id ∧
      vacant id name ms = .error (.duplicateId id existing.name name)) ∨
    id ∉ ms.map (·.id) ∧ vacant id name ms = .ok () := by
  cases hfound : ms.find? (·.id = id) with
  | some existing =>
      have hid : existing.id = id := by simpa using List.find?_some hfound
      exact .inl ⟨existing, List.mem_of_find?_eq_some hfound, hid, by rw [vacant, hfound]⟩
  | none =>
      have hvacant : vacant id name ms = .ok () := by rw [vacant, hfound]
      exact .inr ⟨vacant_eq_ok.mp hvacant, hvacant⟩

def newEntry (found : List Migration) (id : Ident) (description : String) : Name :=
  Text.octets (FileName.write (Migration.maxWidth found) id (Slug.ofText description))

/-! ## Activities -/

section Setting

variable {σ : Type} {setting : Setting σ} {listing : Listing} {site : Site σ} {dir : Path}
variable {found : List Migration}

theorem run_newFile {id : Ident} {id? : Option Ident} (given : newId setting.now id? = .ok id)
    (description : String) (template? : Option String) :
    Program.run (setting.handler listing) (newFile dir id? description template?).run site =
      Program.run (setting.handler listing)
        (creation dir (.described id description template?) Migration.maxWidth .createdFile).run
        site := by
  cases id? with
  | some other =>
      cases given
      rfl
  | none =>
      have hid : Ident.ofInt setting.now = .ok id := given
      refine (Task.run_bind _ _ _ _).trans ?_
      rw [run_currentId, hid]
      rfl

theorem written_of_run {path : Path} {content : String} {result : Except Failure Unit}
    {after : Site σ}
    (hrun : Program.run (setting.handler listing) (writeNew path content).run site =
      (result, after)) :
    Written site.tree path content result after.tree ∧ after.store = site.store := by
  have hruns := @Setting.runs_frailShop σ _ setting listing site _ (writeNew_unlisted path content)
  have hstore := @Setting.store_of_asks σ _ setting listing site (writeNew path content).run
    (writeNew_asks nofun nofun)
  rw [hrun] at hruns hstore
  exact ⟨hruns.ends (meets_writing _ _ _), hstore⟩

theorem run_writeNew_of_opens
    (serves : ∀ record call tree, setting.files record call tree = tree.answer call)
    {path : Path} {loc : Location} {name : Name} (opens : Opens site.tree path loc name)
    (content : String) :
    (Program.run (setting.handler listing) (writeNew path content).run site).1 = .ok () := by
  have hcreate : setting.files site.record (.create path) site.tree =
      (.ok (), site.tree.add (name :: loc) (.file [])) := by
    rw [serves, Tree.answer, opens.create_eq]
    rfl
  have hfill : (site.tree.add (name :: loc) (.file [])).answer (.fill path content) =
      (.ok (), site.tree.add (name :: loc) (.file (Text.octets content))) := by
    rw [Tree.answer, Tree.fill_added opens.enters opens.spelled opens.short opens.fresh]
    rfl
  have hcreated : setting.handler listing (.files (.create path)) site =
      (.ok (), setting.changed (.create path) site) := by
    have hanswer := congrArg Prod.fst hcreate
    exact Prod.ext hanswer rfl
  have hfilled : setting.handler listing (.files (.fill path content))
      (setting.changed (.create path) site) =
      (.ok (), setting.changed (.fill path content) (setting.changed (.create path) site)) := by
    have htree : (setting.changed (.create path) site).tree =
        site.tree.add (name :: loc) (.file []) := congrArg Prod.snd hcreate
    rw [← htree, ← serves (setting.changed (.create path) site).record] at hfill
    have hanswer := congrArg Prod.fst hfill
    exact Prod.ext hanswer rfl
  rw [writeNew, Task.run_bind, Task.run_files, hcreated]
  dsimp only
  rw [Task.run_bind, Task.run_ofExcept]
  dsimp only [Except.mapError]
  rw [Task.run_bind, Task.run_files, hfilled]
  rfl

/-- How the creation of a migration may end once a scan has found some: its ID is refused, or else
it is for the writing of its file to succeed or fail. -/
inductive Created (setting : Setting σ) (listing : Listing) (site : Site σ) (dir : Path)
    (found : List Migration) (m : Made) (name : String) : Except Failure Path → Site σ → Prop
  | taken {existing : Migration} (mem : existing ∈ found) (id : existing.id = m.id) :
      Created setting listing site dir found m name
        (.error (.duplicateId m.id existing.name name)) site
  | failed {failure : Failure} {after : Site σ} (new : m.id ∉ found.map (·.id))
      (run : Program.run (setting.handler listing)
        (writeNew (dir.join (Text.octets name)) m.content).run site = (.error failure, after)) :
      Created setting listing site dir found m name (.error failure) after
  | done {after : Site σ} (new : m.id ∉ found.map (·.id))
      (run : Program.run (setting.handler listing)
        (writeNew (dir.join (Text.octets name)) m.content).run site = (.ok (), after)) :
      Created setting listing site dir found m name (.ok (dir.join (Text.octets name))) after

/-- What is new at a site: one file in the directory, for a migration that a scan finds besides
those before. -/
structure Adds (site after : Site σ) (dir : Path) (loc : Location) (found : List Migration)
    (m : Migration) : Prop where
  path : m.path = dir.join (Text.octets m.name)
  opens : Opens site.tree m.path loc (Text.octets m.name)
  tree : after.tree = site.tree.add (Text.octets m.name :: loc) (.file (Text.octets m.content))
  beside : ∀ other ≠ Text.octets m.name :: loc, after.tree.get? other = site.tree.get? other
  store : after.store = site.store
  scans : ∀ listing : Listing, ∃ found', seen (listing.sight after.tree) dir = .ok found' ∧
    found'.Perm (found ++ [m])

theorem finds_of_seen (scans : seen (listing.sight site.tree) dir = .ok found) :
    ∃ plain loc, Finds (.ofTree site.tree) dir plain ∧ plain.Perm found ∧
      site.tree.Denotes dir loc := by
  obtain ⟨plain, hplain, hperm⟩ := (seen_eq_ok.mp scans).relist .plain
  rw [Listing.sight_plain] at hplain
  obtain ⟨loc, hdenotes⟩ := exists_denotes hplain
  exact ⟨plain, loc, hplain, hperm, hdenotes⟩

/-- A file can be created for a vacant ID, unless its name or its path is refused. -/
theorem opens_of_seen (scans : seen (listing.sight site.tree) dir = .ok found) {h : Heading}
    (announces : heading h.entry = .ok h) (named : Path.Plain h.entry)
    (new : h.id ∉ found.map (·.id)) (spelled : Tree.spelled (dir.join h.entry) = .ok ())
    (short : h.entry.length ≤ Tree.nameLimit) :
    ∃ loc, Opens site.tree (dir.join h.entry) loc h.entry := by
  obtain ⟨plain, loc, hplain, hperm, hdenotes⟩ := finds_of_seen scans
  have hnew : h.id ∉ plain.map (·.id) := fun hid => new ((hperm.map _).mem_iff.mp hid)
  exact ⟨loc, hdenotes.leads.enters named, spelled, short,
    hplain.fresh hdenotes announces hnew⟩

/-- A file that has been written for a vacant ID is found as the migration that its name announces. -/
theorem adds_of_written (scans : seen (listing.sight site.tree) dir = .ok found) {h : Heading}
    (announces : heading h.entry = .ok h) (named : Path.Plain h.entry)
    (new : h.id ∉ found.map (·.id)) {content : String} {after : Site σ}
    (written : Written site.tree (dir.join h.entry) content (.ok ()) after.tree)
    (store : after.store = site.store) :
    ∃ loc, site.tree.resolve dir = .ok loc ∧
      Adds site after dir loc found (h.migration dir content) := by
  -- In the order of the tree, the new file is the last; other orders follow from that.
  obtain ⟨plain, loc, hplain, hperm, hdenotes⟩ := finds_of_seen scans
  have henters := hdenotes.leads.enters named
  generalize htree : after.tree = tree at written
  cases written with
  | whole opens =>
      obtain ⟨rfl, rfl⟩ := henters.unique opens.enters
      have hnew : h.id ∉ plain.map (·.id) := fun hid => new ((hperm.map _).mem_iff.mp hid)
      have hfinds := hplain.concat hdenotes (reads_added announces content opens) hnew
      refine ⟨loc, (Tree.denotes_iff.mp hdenotes).1, rfl, opens, htree, ?_, store, ?_⟩
      · intro other hother
        rw [htree]
        exact Tree.get?_add_beside hother
      · intro listing
        rw [← Listing.sight_plain] at hfinds
        obtain ⟨found', hfound', hperm'⟩ := hfinds.relist listing
        rw [htree]
        exact ⟨found', seen_eq_ok.mpr hfound', hperm'.trans (hperm.append_right _)⟩

variable (setting listing site)

theorem created_of_run (scans : seen (listing.sight site.tree) dir = .ok found) (m : Made)
    (width : List Migration → Nat) (event : Path → Event) :
    Created setting listing site dir found m (FileName.write (width found) m.id m.slug)
      (Program.run (setting.handler listing) (creation dir m width event).run site).1
      (Program.run (setting.handler listing) (creation dir m width event).run site).2 := by
  let name := FileName.write (width found) m.id m.slug
  rw [creation, Task.run_bind, Setting.run_scan, scans]
  dsimp only
  rw [Task.run_bind, Task.run_ofExcept]
  rcases vacant_cases m.id name found with ⟨existing, hexisting, hid, htaken⟩ | ⟨hnew, hvacant⟩
  · rw [htaken]
    exact .taken hexisting hid
  · rw [hvacant]
    dsimp only [Except.mapError]
    rw [Task.run_bind]
    rcases hrun : Program.run (setting.handler listing)
      (writeNew (dir.join (Text.octets name)) m.content).run site with ⟨failure | _, after⟩
    · exact .failed hnew hrun
    · exact .done hnew hrun

/-- Adding a migration makes one entry of the directory, and nothing else. It is refused for its ID
exactly if that is taken. Where all calls are served, it is refused for nothing else but a name or a
path that no file can have. -/
theorem newFile_adds_one (scans : seen (listing.sight site.tree) dir = .ok found)
    {id : Ident} {id? : Option Ident} (given : newId setting.now id? = .ok id)
    (description : String) (template? : Option String) :
    (∀ path after, Program.run (setting.handler listing)
        (newFile dir id? description template?).run site = (.ok path, after) →
      ∃ loc m, site.tree.resolve dir = .ok loc ∧ m.path = path ∧
        Made.of m = .described id description template? ∧
        (∀ top ∈ found, (∀ k ∈ found, k.id ≤ top.id) →
          m.digits.length = max top.id.width id.width) ∧
        (found = [] → m.digits.length = id.width) ∧ Adds site after dir loc found m) ∧
    ((∃ taken first second, (Program.run (setting.handler listing)
        (newFile dir id? description template?).run site).1 =
          .error (.duplicateId taken first second)) ↔ ∃ m ∈ found, m.id = id) ∧
    ((∀ record call tree, setting.files record call tree = tree.answer call) →
      ((∃ path, (Program.run (setting.handler listing)
          (newFile dir id? description template?).run site).1 = .ok path) ↔
        (∀ m ∈ found, m.id ≠ id) ∧
        Tree.spelled (dir.join (newEntry found id description)) = .ok () ∧
        (newEntry found id description).length ≤ Tree.nameLimit)) := by
  let h : Heading := .written (Migration.maxWidth found) id (Slug.ofText description)
  have hclean := clean_described id description template?
  have announces : heading h.entry = .ok h := heading_write _ id hclean
  have named : Path.Plain h.entry := FileName.plain_write _ id hclean
  have hcreated := created_of_run setting listing site scans (.described id description template?)
    Migration.maxWidth .createdFile
  rw [run_newFile given]
  generalize Program.run (setting.handler listing)
    (creation dir (.described id description template?) Migration.maxWidth .createdFile).run site =
    ended at hcreated
  obtain ⟨result, after⟩ := ended
  cases hcreated with
  | taken mem hid =>
      refine ⟨nofun, ⟨fun _ => ⟨_, mem, hid⟩, fun _ => ⟨_, _, _, rfl⟩⟩, fun _ => ⟨nofun, ?_⟩⟩
      rintro ⟨hnew, _⟩
      exact absurd hid (hnew _ mem)
  | failed new hrun =>
      refine ⟨nofun, ⟨?_, fun htaken => absurd (List.mem_map.mpr htaken) new⟩,
        fun serves => ⟨nofun, ?_⟩⟩
      · rintro ⟨taken, first, second, hfailure⟩
        cases hfailure
        obtain ⟨hwritten, _⟩ := written_of_run hrun
        cases hwritten
      · rintro ⟨_, hspelled, hshort⟩
        obtain ⟨loc, hopens⟩ := opens_of_seen scans announces named new hspelled hshort
        have hfailed := congrArg Prod.fst hrun
        cases hfailed.symm.trans (run_writeNew_of_opens serves hopens _)
  | done new hrun =>
      obtain ⟨hwritten, hstore⟩ := written_of_run hrun
      obtain ⟨loc, hresolve, hadds⟩ := adds_of_written scans announces named new hwritten hstore
      refine ⟨?_, ⟨nofun, fun htaken => absurd (List.mem_map.mpr htaken) new⟩,
        fun _ => ⟨fun _ => ⟨?_, hadds.opens.spelled, hadds.opens.short⟩, fun _ => ⟨_, rfl⟩⟩⟩
      · intro path last hends
        cases hends
        have hextent : h.extent = max (Migration.maxWidth found) id.width :=
          Heading.extent_written _ id _
        refine ⟨loc, _, hresolve, rfl, rfl, fun top htop largest => ?_, ?_, hadds⟩
        · rw [← maxWidth_eq_of_top htop largest]
          exact hextent
        · rintro rfl
          exact hextent.trans (Nat.zero_max _)
      · intro m hm hid
        exact new (List.mem_map.mpr ⟨m, hm, hid⟩)

end Setting

/-- Slashes and dots in a description do not lead out of the directory, and the ID is padded. A
description with a zero in it is refused. -/
theorem newFile_adds_one_uneven : ∃ (after : Site Unit) (m : Migration),
    Program.run (Setting.ordinary.handler .plain)
      (newFile (.ofText "m") (some ⟨7, by decide⟩) "../c d" none).run ⟨uneven, (), []⟩ =
        (.ok (.ofText "m/07-_c_d.sql"), after) ∧
    m.path = .ofText "m/07-_c_d.sql" ∧ m.slug = "_c_d" ∧ m.digits.length = 2 ∧
    Adds ⟨uneven, (), []⟩ after (.ofText "m") [Text.octets "m"] nineAndTen m ∧
    ¬ ∃ path, (Program.run (Setting.ordinary.handler .plain)
      (newFile (.ofText "m") (some ⟨7, by decide⟩) "c\x00d" none).run ⟨uneven, (), []⟩).1 =
        .ok path := by
  have hscan : seen (Listing.plain.sight uneven) (.ofText "m") = .ok nineAndTen := by
    decide +kernel
  have hresult : (Program.run (Setting.ordinary.handler .plain)
      (newFile (.ofText "m") (some ⟨7, by decide⟩) "../c d" none).run ⟨uneven, (), []⟩).1 =
      .ok (.ofText "m/07-_c_d.sql") := by decide +kernel
  have given : newId 0 (some ⟨7, by decide⟩) = .ok ⟨7, by decide⟩ := rfl
  obtain ⟨hadds, _⟩ := newFile_adds_one .ordinary .plain ⟨uneven, (), []⟩ hscan given "../c d" none
  obtain ⟨_, _, hserved⟩ :=
    newFile_adds_one .ordinary .plain ⟨uneven, (), []⟩ hscan given "c\x00d" none
  rcases hrun : Program.run (Setting.ordinary.handler .plain)
    (newFile (.ofText "m") (some ⟨7, by decide⟩) "../c d" none).run ⟨uneven, (), []⟩ with
    ⟨result, after⟩
  rw [hrun] at hresult
  cases hresult
  obtain ⟨loc, m, hresolve, hpath, hmade, hdigits, _, hm⟩ := hadds _ _ hrun
  have hloc : uneven.resolve (.ofText "m") = .ok [Text.octets "m"] := by decide +kernel
  cases hresolve.symm.trans hloc
  refine ⟨after, m, rfl, hpath, congrArg Made.slug hmade, ?_, hm, ?_⟩
  · exact (hdigits
      ⟨.ofText "m/10-b.sql", "10-b.sql", Bootstrap.placeholder, ⟨10, by decide⟩, "b", "10"⟩
      (by decide +kernel) (by decide +kernel)).trans (by decide +kernel)
  · intro hdone
    obtain ⟨_, hspelled, _⟩ := (hserved fun _ _ _ => rfl).mp hdone
    exact absurd hspelled (by decide +kernel)

end SchemaLedger.Directory
