import SchemaLedger.Directory.Renumber
import SchemaLedger.Proofs.Directory.Stock
import SchemaLedger.Proofs.Directory.Workshop

/-! # Authoring keeps the stock

Setting up a directory, adding a migration and renumbering take a stocked directory to a stocked
directory, whichever calls on files are refused on the way. -/

namespace SchemaLedger.Directory

open Files (Call Fits IoError Location Tree)

variable {now : Int} {tree : Tree} {dir : Path} {loc : Location} {made : List Made}
variable {undivided : Prop}

/-! ## New files -/

theorem meets_writeNew (h : Stocked undivided tree dir loc made) {m : Made} (width : Nat)
    (clean : Slug.Clean m.slug) (vacant : m.id ∉ made.map (·.id))
    {ends : Except Failure Unit → Tree → Prop}
    (hok : ∀ after, Stocked undivided after dir loc (made ++ [m]) → ends (.ok ()) after)
    (herror : ∀ failure, ends (.error failure) tree) :
    Program.Meets (workshop now)
      (writeNew (dir.join (Text.octets (FileName.write width m.id m.slug))) m.content).run ends
      tree := by
  have henters := h.denotes.leads.enters (FileName.plain_write width m.id clean)
  rw [writeNew, Task.meets_bind]
  refine meets_create (serves_workshop now) ?_ fun error => herror _
  intro after hcreated
  obtain ⟨hspelled, hshort, hfresh, rfl⟩ := Tree.create_entry henters hcreated
  rw [Task.Then, Task.meets_ofExcept_ok, Task.meets_bind]
  refine meets_fill (Tree.fill_added henters hspelled hshort hfresh [] (Text.octets m.content)) ?_
  exact hok _ (h.create clean vacant rfl (henters.fits hspelled hshort) hfresh)

theorem vacant_eq_ok {id : Ident} {name : String} {ms : List Migration} :
    vacant id name ms = .ok () ↔ id ∉ ms.map (·.id) := by
  rw [vacant]
  cases hfound : ms.find? (·.id = id) with
  | none => simpa using hfound
  | some existing =>
      have hid : existing.id = id := by simpa using List.find?_some hfound
      simp only [reduceCtorEq, List.mem_map, false_iff, not_not]
      exact ⟨existing, List.mem_of_find?_eq_some hfound, hid⟩

theorem ids_eq (h : Stocked undivided tree dir loc made) {found : List Migration}
    (finds : Finds (.ofTree tree) dir found) : found.map (·.id) = made.map (·.id) := by
  rw [← h.found_eq finds, List.map_map]
  rfl

/-- What is to hold once a migration has been created, or that has failed. -/
def Creates {α : Type} (inv : Tree → List Made → Prop) (made : List Made) (m : Made) :
    Except Failure α → Tree → Prop
  | .ok _, after => inv after (made ++ [m])
  | .error _, after => inv after made

def creation (dir : Path) (m : Made) (width : List Migration → Nat) (event : Path → Event) :
    Task Failure Path := do
  let ms ← scan dir
  let name := FileName.write (width ms) m.id m.slug
  Task.ofExcept id (vacant m.id name ms)
  let path := dir.join (Text.octets name)
  writeNew path m.content
  Task.note (event path)
  pure path

theorem meets_creation (h : Stocked undivided tree dir loc made) {m : Made}
    (clean : Slug.Clean m.slug) (width : List Migration → Nat) (event : Path → Event) :
    Program.Meets (workshop now) (creation dir m width event).run
      (Creates (Stocked undivided · dir loc) made m) tree := by
  rw [creation, Task.meets_bind]
  refine meets_scanning (shows_workshop now tree) dir ?_ fun _ _ => h
  intro ms finds
  rw [Task.Then, Task.meets_bind, Task.meets_ofExcept]
  cases hvacant : vacant m.id (FileName.write (width ms) m.id m.slug) ms with
  | error failure => exact h
  | ok =>
      have hnew := vacant_eq_ok.mp hvacant
      rw [ids_eq h finds] at hnew
      refine (Task.meets_bind _ _ _ _ _).mpr ?_
      refine meets_writeNew h (width ms) clean hnew ?_ fun _ => h
      intro after hafter
      rw [Task.Then, Task.meets_bind, Task.meets_note]
      refine ⟨trivial, ?_⟩
      rintro _ _ rfl
      exact hafter

/-! ## Setting up and adding -/

def Made.bootstrap : Made := ⟨.first, Bootstrap.slug, Bootstrap.sql⟩

theorem clean_bootstrap : Slug.Clean Made.bootstrap.slug := ⟨by decide, by decide⟩

theorem setUp_eq (dir : Path) : setUp dir = (do
    (makeAll dir).adapt (Failure.makingDirectory dir)
    creation dir .bootstrap (fun _ => 0) .wroteBootstrap) := rfl

def newId (now : Int) : Option Ident → Except IdentError Ident
  | some given => .ok given
  | none => Ident.ofInt now

def Made.described (id : Ident) (description : String) (template? : Option String) : Made :=
  ⟨id, Slug.ofText description, template?.getD Bootstrap.placeholder⟩

theorem clean_described (id : Ident) (description : String) (template? : Option String) :
    Slug.Clean (Made.described id description template?).slug := Slug.clean_ofText description

theorem meets_newFile {around : Surroundings host Tree} (clock : Offers around tree .now (· = now))
    {id? : Option Ident} {description : String} {template? : Option String}
    {ends : Except Failure Path → Tree → Prop}
    (hok : ∀ id, newId now id? = .ok id → Program.Meets around
      (creation dir (.described id description template?) Migration.maxWidth .createdFile).run
      ends tree)
    (herror : ∀ failure, ends (.error failure) tree) :
    Program.Meets around (newFile dir id? description template?).run ends tree := by
  cases id? with
  | some given => exact hok given rfl
  | none =>
      rw [newFile]
      refine (Task.meets_bind _ _ _ _ _).mpr ?_
      rw [currentId, Task.meets_bind, Task.meets_lift]
      refine ⟨clock.1, ?_⟩
      intro seconds after hafter
      obtain ⟨rfl, rfl⟩ := clock.2 seconds after hafter
      rw [Task.Then, Task.meets_ofExcept]
      cases hid : Ident.ofInt seconds with
      | error error => exact herror _
      | ok id => exact hok id hid

/-! ## Renumbering -/

/-- A migration is where it has been found, under a name that was written for it. -/
structure Placed (tree : Tree) (dir : Path) (loc : Location) (m : Migration) : Prop where
  path : m.path = dir.join (Text.octets m.name)
  named : ∃ width, m.name = FileName.write width m.id m.slug
  clean : Slug.Clean m.slug
  file : (Text.octets m.name, .file (Text.octets m.content)) ∈ tree.entriesIn loc

theorem placed_of_finds (h : Stocked undivided tree dir loc made) {found : List Migration}
    (finds : Finds (.ofTree tree) dir found) : ∀ m ∈ found, Placed tree dir loc m := by
  intro m hm
  obtain ⟨name, hname, hreads⟩ := exists_related (h.reads_names finds) hm
  rw [h.names_eq (h.whole_of_finds finds)] at hname
  obtain ⟨⟨_, content⟩, hfile, rfl⟩ := List.mem_map.mp hname
  obtain ⟨k, hk, hfiled⟩ := exists_related h.files hfile
  have hx := mem_filesIn.mp hfile
  obtain ⟨rfl, rfl, hnamed⟩ := h.of_reads (h.clean k hk) hfiled hx hreads
  refine ⟨hreads.path, hnamed, h.clean _ hk, ?_⟩
  obtain ⟨_, hcontent⟩ := hfiled
  have hbytes : content = Text.octets m.content := (Prod.mk.inj hcontent).2
  exact hbytes ▸ hx

/-- Where there are only files, the name that a migration is to get is free, unless it has it. -/
theorem get?_padded (h : Stocked True tree dir loc made) {m : Migration}
    (placed : Placed tree dir loc m) {width : Nat}
    (other : Text.octets (FileName.write width m.id m.slug) ≠ Text.octets m.name) :
    tree.get? (Text.octets (FileName.write width m.id m.slug) :: loc) = none := by
  cases hfound : tree.get? (Text.octets (FileName.write width m.id m.slug) :: loc) with
  | none => rfl
  | some entry =>
      have hx := Tree.mem_entriesIn.mpr (Tree.mem_of_get? (List.cons_ne_nil _ _) hfound)
      rcases h.others _ hx with hdir | ⟨content, hfile⟩
      · exact absurd hdir (h.whole trivial _ hx)
      · cases hfile
        have hfile := mem_filesIn.mpr hx
        obtain ⟨k, hk, hfiled⟩ := exists_related h.files hfile
        obtain ⟨width', hname⟩ := hfiled
        have hid := (write_injective (h.clean k hk) placed.clean (Prod.mk.inj hname).1.symm).1
        obtain ⟨width'', hnamed⟩ := placed.named
        have hown : (Made.of m).Filed (Text.octets m.name, Text.octets m.content) :=
          ⟨width'', by rw [hnamed, Made.of]⟩
        have hsame := file_unique h.files h.distinct h.clean (h.clean k hk) placed.clean hfile
          (mem_filesIn.mpr placed.file) ⟨width', hname⟩ hown hid
        exact absurd (Prod.mk.inj hsame).1 other

/-- Renaming the file of one migration leaves those of others where they are. -/
theorem Placed.carry {m other : Migration} (placed : Placed tree dir loc m)
    (hother : Placed tree dir loc other) (hid : other.id ≠ m.id) (newName : Name) :
    Placed (tree.carry (Text.octets m.name :: loc) (newName :: loc)) dir loc other := by
  refine ⟨hother.path, hother.named, hother.clean, ?_⟩
  rw [Tree.entriesIn_carry]
  refine List.mem_map.mpr ⟨_, hother.file, if_neg ?_⟩
  intro hname
  obtain ⟨width, hnamed⟩ := placed.named
  obtain ⟨width', hnamed'⟩ := hother.named
  rw [hnamed, hnamed'] at hname
  exact hid (write_injective hother.clean placed.clean hname).1

/-- Giving a file its padded name keeps the stock, and the other files where they are. -/
theorem Placed.renamed (h : Stocked True tree dir loc made) {m : Migration}
    (placed : Placed tree dir loc m) {width : Nat} {after : Tree}
    (hrenamed : tree.rename (padding width m).source (padding width m).target = .ok after) :
    Stocked True after dir loc made ∧
      ∀ other, Placed tree dir loc other → other.id ≠ m.id → Placed after dir loc other := by
  have hplain := FileName.plain_write width m.id placed.clean
  have hsource : tree.Enters (padding width m).source loc (Text.octets m.name) := by
    rw [padding, placed.path]
    exact h.enters placed.file
  have htarget : tree.Enters (padding width m).target loc
      (Text.octets (FileName.write width m.id m.slug)) := by
    rw [padding, placed.path]
    exact h.denotes.enters_sibling (h.fits _ placed.file).plain hplain
  by_cases hname : Text.octets (FileName.write width m.id m.slug) = Text.octets m.name
  · rw [hname] at htarget
    rw [Tree.rename_same hsource htarget hrenamed]
    exact ⟨h, fun other hother _ => hother⟩
  · have hfresh := get?_padded h placed hname
    obtain ⟨hspelled, hshort, rfl⟩ := Tree.rename_entry h.proper hsource htarget
      (h.get?_eq placed.file) nofun hfresh hrenamed
    obtain ⟨width', hnamed⟩ := placed.named
    have hfiled : (Made.of m).Filed (Text.octets m.name, Text.octets m.content) :=
      ⟨width', by rw [hnamed, Made.of]⟩
    have hfits := htarget.fits hspelled hshort
    refine ⟨h.rename placed.clean hfiled placed.file rfl hfits hfresh, ?_⟩
    intro other hother hid
    exact placed.carry hother hid _

theorem meets_renameEach (h : Stocked True tree dir loc made) {todo : List Migration}
    (placed : ∀ m ∈ todo, Placed tree dir loc m) (distinct : (todo.map (·.id)).Nodup)
    (width : Nat) :
    Program.Meets (workshop now) (renameEach (todo.map (padding width))).run
      (fun _ after => Stocked True after dir loc made) tree := by
  induction todo generalizing tree with
  | nil => exact h
  | cons m rest ih =>
      obtain ⟨hnew, hdistinct⟩ := List.nodup_cons.mp distinct
      rw [List.map_cons, renameEach, Task.meets_bind]
      refine meets_rename (serves_workshop now) ?_ fun error => h
      intro after hrenamed
      obtain ⟨hstocked, hothers⟩ := (placed m List.mem_cons_self).renamed h hrenamed
      have hrest : ∀ other ∈ rest, Placed after dir loc other := by
        intro other hother
        refine hothers other (placed other (List.mem_cons_of_mem _ hother)) ?_
        intro hid
        exact hnew (List.mem_map.mpr ⟨other, hother, hid⟩)
      rw [Task.Then, Task.meets_ofExcept_ok, Task.meets_bind, Task.meets_note]
      refine ⟨trivial, ?_⟩
      rintro _ _ rfl
      exact ih hstocked hrest hdistinct

theorem meets_renumber (h : Stocked undivided tree dir loc made) (write : Bool) :
    Program.Meets (workshop now) (renumber dir write).run
      (fun _ after => Stocked undivided after dir loc made) tree := by
  rw [renumber, Task.meets_bind]
  refine meets_scanning (shows_workshop now tree) dir ?_ fun _ _ => h
  intro ms finds
  have hwhole : Stocked True tree dir loc made :=
    { h with whole := fun _ => h.whole_of_finds finds }
  have hplaced := placed_of_finds h finds
  obtain ⟨_, _, _, hdistinct⟩ := finds
  have hsorted : ∀ m ∈ (Migration.sortById ms).filter (isShort (Migration.maxWidth ms)),
      Placed tree dir loc m := by
    intro m hm
    exact hplaced m (List.mem_mergeSort.mp (List.mem_filter.mp hm).1)
  have hnodup : (((Migration.sortById ms).filter (isShort (Migration.maxWidth ms))).map
      (·.id)).Nodup := by
    have hall : ((Migration.sortById ms).map (·.id)).Nodup :=
      ((List.mergeSort_perm ms _).map _).nodup_iff.mpr hdistinct
    exact hall.sublist (List.filter_sublist.map _)
  rw [Task.Then]
  split
  · exact h
  · cases write with
    | true =>
        refine (Task.meets_bind _ _ _ _ _).mpr ?_
        refine (meets_renameEach hwhole hsorted hnodup _).mono ?_
        intro result after hafter
        have hafter : Stocked undivided after dir loc made :=
          { hafter with whole := fun _ => hafter.whole trivial }
        cases result <;> exact hafter
    | false =>
        refine (Task.meets_bind _ _ _ _ _).mpr ?_
        refine ⟨trivial, ?_⟩
        rintro _ _ rfl
        exact h

end SchemaLedger.Directory
