import SchemaLedger.Proofs.Directory.Growth

/-! # Renaming the files of a directory

A directory holds the files of some migrations. A renaming gives one of them its padded name, which
nothing has had, and leaves all else as it is. -/

namespace SchemaLedger

open Files (Fits IoError Location Tree)

/-! ## Migrations under other names -/

namespace Migration

/-- The migration once the names of those with some IDs are padded to a width. -/
def paddedIn (dir : Path) (width : Nat) (ids : List Ident) (m : Migration) : Migration :=
  ((Directory.Heading.of m).paddedIn width ids).migration dir m.content

def file (m : Migration) : Name × Files.Entry :=
  (Text.octets m.name, .file (Text.octets m.content))

variable {dir : Path} {width : Nat} {ids : List Ident} {m : Migration}

theorem paddedIn_of_not_mem (path : m.path = dir.join (Text.octets m.name)) (other : m.id ∉ ids) :
    m.paddedIn dir width ids = m := by
  have hkept : (Directory.Heading.of m).paddedIn width ids = .of m := if_neg other
  have hpath : dir.join (Directory.Heading.of m).entry = m.path := path.symm
  rw [paddedIn, hkept, Directory.Heading.migration, hpath]
  rfl

@[simp] theorem paddedIn_id : (m.paddedIn dir width ids).id = m.id :=
  Directory.Heading.paddedIn_id width ids (.of m)

@[simp] theorem made_paddedIn : Directory.Made.of (m.paddedIn dir width ids) = .of m := by
  have hslug : ((Directory.Heading.of m).paddedIn width ids).slug = m.slug := by
    rw [Directory.Heading.paddedIn]
    split <;> rfl
  rw [Directory.Made.of, paddedIn_id]
  exact congrArg (Directory.Made.mk m.id · m.content) hslug

@[simp] theorem map_of_paddedIn (dir : Path) (ms : List Migration) :
    (ms.map (·.paddedIn dir width ids)).map Directory.Heading.of =
      (ms.map Directory.Heading.of).map (·.paddedIn width ids) := by
  rw [List.map_map, List.map_map]
  rfl

theorem map_paddedIn_cons (id : Ident) (ms : List Migration) :
    (ms.map (·.paddedIn dir width [id])).map (·.paddedIn dir width ids) =
      ms.map (·.paddedIn dir width (id :: ids)) := by
  rw [List.map_map]
  refine List.map_congr_left fun m _ => ?_
  rw [paddedIn, ← Directory.Heading.paddedIn_cons]
  rfl

end Migration

/-! ## One directory -/

/-- Two trees differ at most in what is right below a location. -/
structure Files.Tree.DifferIn (loc : Location) (tree after : Tree) : Prop where
  workDir : after.workDir = tree.workDir
  beside : ∀ other, (∀ name, other ≠ name :: loc) → after.get? other = tree.get? other

namespace Directory

/-- All that is in a directory are the files of some migrations. -/
structure Holds (tree : Tree) (dir : Path) (loc : Location) (ms : List Migration) : Prop where
  labelled : Labelled tree dir loc (ms.map .of)
  paths : ∀ m ∈ ms, m.path = dir.join (Text.octets m.name)
  files : tree.entriesIn loc = ms.map Migration.file

/-- Makes renamings one after the other, until one of them fails. -/
def carryOut : List Renaming → Tree → Except IoError Tree
  | [], tree => .ok tree
  | r :: rest, tree => do carryOut rest (← tree.rename r.source r.target)

variable {tree after : Tree} {dir : Path} {loc : Location} {ms found : List Migration}
variable {m : Migration} {width : Nat}

theorem Reads.file_eq (sound : tree.Sound) (denotes : tree.Denotes dir loc) {name : Name}
    {content : Octets} (hx : (name, .file content) ∈ tree.entriesIn loc)
    (reads : Reads (.ofTree tree) dir name m) : (name, .file content) = m.file := by
  have hname : name ∈ tree.names loc := by
    rw [Tree.names_eq]
    exact List.mem_map_of_mem hx
  have henters := denotes.leads.enters (sound.fits loc name hname).plain
  have hfound := sound.proper.get?_of_mem (Tree.mem_entriesIn.mp hx)
  have hread : tree.read (dir.join name) = .ok (Text.octets m.content) :=
    reads.path ▸ reads.content
  rw [Migration.file, ← (Tree.eq_of_read_file henters hfound hread).1,
    (heading_eq_ok reads.heading).1]

theorem Holds.of_finds (sound : tree.Sound) (denotes : tree.Denotes dir loc)
    (files : ∀ x ∈ tree.entriesIn loc, ∃ content, x.2 = .file content)
    (finds : Finds (.ofTree tree) dir found) : Holds tree dir loc found := by
  have hreads := names_of_finds denotes finds
  refine ⟨.of_finds sound denotes finds, ?_, ?_⟩
  · intro m hm
    obtain ⟨name, _, hread⟩ := exists_related hreads hm
    rw [hread.path, (heading_eq_ok hread.heading).1]
  · rw [Tree.names_eq, List.forall₂_map_left_iff] at hreads
    have hfiles : List.Forall₂ Eq (tree.entriesIn loc) (found.map Migration.file) := by
      refine List.forall₂_map_right_iff.mpr ?_
      refine ((List.forall₂_and_left _ _).mpr ⟨fun x hx => hx, hreads⟩).imp ?_
      rintro ⟨name, entry⟩ m ⟨hx, hread⟩
      obtain ⟨content, rfl⟩ := files _ hx
      exact hread.file_eq sound denotes hx
    rwa [List.forall₂_eq_eq_eq] at hfiles

/-! ## Renaming one file -/

section Holds

variable (h : Holds tree dir loc ms)

include h

theorem Holds.due (hm : m ∈ ms) (short : m.digits.length < width) : Due dir (ms.map .of) width m :=
  ⟨h.paths m hm, List.mem_map_of_mem hm, short⟩

theorem Holds.rename (due : Due dir (ms.map .of) width m)
    (renamed : tree.rename (padding width m).source (padding width m).target = .ok after) :
    Holds after dir loc (ms.map (·.paddedIn dir width [m.id])) ∧ tree.DifferIn loc after := by
  have hlabelled := due.renamed h.labelled renamed
  obtain ⟨_, hfresh⟩ := due.target h.labelled
  obtain ⟨_, rfl⟩ := due.carried h.labelled renamed
  refine ⟨⟨?_, ?_, ?_⟩, rfl, fun other hother => ?_⟩
  · rwa [Migration.map_of_paddedIn]
  · intro m hm
    obtain ⟨k, _, rfl⟩ := List.mem_map.mp hm
    rfl
  · rw [Tree.entriesIn_carry, h.files, List.map_map, List.map_map]
    refine List.map_congr_left fun k hk => ?_
    have hmem : Heading.of k ∈ ms.map .of := List.mem_map_of_mem hk
    change (if Text.octets k.name = (Heading.of m).entry then _ else k.file) =
      (((Heading.of k).paddedIn width [m.id]).entry, Files.Entry.file (Text.octets k.content))
    by_cases hid : k.id = m.id
    · have hsame : Heading.of k = Heading.of m := h.labelled.eq_of_id hmem due.mem hid
      have hentry : Text.octets k.name = (Heading.of m).entry := congrArg Heading.entry hsame
      have hdue : (Heading.of m).id ∈ [m.id] := List.mem_singleton_self m.id
      rw [if_pos hentry, hsame, Heading.paddedIn, if_pos hdue]
      rfl
    · have hentry : Text.octets k.name ≠ (Heading.of m).entry := fun hsame =>
        hid (congrArg Heading.id (h.labelled.announce.entry_inj hmem due.mem hsame))
      have hother : (Heading.of k).id ∉ [m.id] := fun hmem => hid (List.mem_singleton.mp hmem)
      rw [if_neg hentry, Heading.paddedIn, if_neg hother]
      rfl
  · exact Tree.get?_carry_beside h.labelled.proper hfresh (hother _) (hother _)

end Holds

/-! ## Renaming one file after the other -/

theorem Holds.renameAll {todo : List Migration} (h : Holds tree dir loc ms)
    (due : ∀ m ∈ todo, Due dir (ms.map .of) width m) (distinct : (todo.map (·.id)).Nodup)
    (carried : carryOut (todo.map (padding width)) tree = .ok after) :
    Holds after dir loc (ms.map (·.paddedIn dir width (todo.map (·.id)))) ∧
      tree.DifferIn loc after := by
  induction todo generalizing tree ms with
  | nil =>
      cases carried
      refine ⟨?_, rfl, fun _ _ => rfl⟩
      have hkept : ms.map (·.paddedIn dir width []) = ms := by
        refine (List.map_congr_left fun m hm => ?_).trans (List.map_id ms)
        exact Migration.paddedIn_of_not_mem (h.paths m hm) List.not_mem_nil
      rwa [List.map_nil, hkept]
  | cons m rest ih =>
      obtain ⟨hnew, hdistinct⟩ := List.nodup_cons.mp distinct
      rw [List.map_cons, carryOut] at carried
      cases hrename : tree.rename (padding width m).source (padding width m).target with
      | error error =>
          rw [hrename] at carried
          cases carried
      | ok mid =>
          rw [hrename] at carried
          obtain ⟨hmid, hbeside⟩ := h.rename (due m List.mem_cons_self) hrename
          -- No ID comes twice, so this renaming is in no other's way.
          have hdue : ∀ other ∈ rest,
              Due dir ((ms.map (·.paddedIn dir width [m.id])).map .of) width other := by
            intro other hother
            rw [Migration.map_of_paddedIn]
            refine (due other (List.mem_cons_of_mem _ hother)).later ?_
            rw [List.mem_singleton]
            exact fun hid => hnew (List.mem_map.mpr ⟨other, hother, hid⟩)
          obtain ⟨hafter, hbeside'⟩ := ih hmid hdue hdistinct carried
          rw [Migration.map_paddedIn_cons] at hafter
          refine ⟨hafter, hbeside'.workDir.trans hbeside.workDir, fun other hother => ?_⟩
          exact (hbeside'.beside other hother).trans (hbeside.beside other hother)

/-! ## Scanning what is there -/

section Holds

variable (h : Holds tree dir loc ms)

include h

theorem Holds.enters (hm : m ∈ ms) : tree.Enters m.path loc (Heading.of m).entry := by
  rw [h.paths m hm]
  exact h.labelled.enters (List.mem_map_of_mem hm)

theorem Holds.get?_eq (hm : m ∈ ms) :
    tree.get? ((Heading.of m).entry :: loc) = some (.file (Text.octets m.content)) := by
  refine h.labelled.proper.get?_of_mem (Tree.mem_entriesIn.mp ?_)
  rw [h.files]
  exact List.mem_map_of_mem hm

/-- A scan finds what is there, if no path is too long. -/
theorem Holds.finds (short : ∀ m ∈ ms, m.path.octets.length < Tree.pathLimit) :
    Finds (.ofTree tree) dir ms := by
  refine ⟨tree.names loc, list_of_denotes h.labelled.denotes, ?_, ?_⟩
  · rw [h.labelled.announce.names_eq, List.map_map, List.forall₂_map_left_iff, List.forall₂_same]
    intro m hm
    have hof : Heading.of m ∈ ms.map .of := List.mem_map_of_mem hm
    have hfits := h.labelled.fits _ (h.labelled.of_mem hof)
    have hspelled : Tree.spelled m.path = .ok () := by
      have hshort := short m hm
      rw [h.paths m hm] at hshort ⊢
      exact (Tree.spelled_join h.labelled.denotes.spelled hfits).mpr hshort
    refine ⟨h.labelled.announce.reads _ hof, h.paths m hm, ?_⟩
    change tree.read m.path = _
    rw [Tree.read_file (h.enters hm) hfits.short (h.get?_eq hm), hspelled]
    rfl
  · have hdistinct := h.labelled.distinct
    rwa [List.map_map] at hdistinct

/-- A scan succeeds exactly if no path is too long, and finds what is there. -/
theorem Holds.finds_iff :
    Finds (.ofTree tree) dir found ↔
      found = ms ∧ ∀ m ∈ ms, m.path.octets.length < Tree.pathLimit := by
  constructor
  · intro finds
    have hshort : ∀ m ∈ ms, m.path.octets.length < Tree.pathLimit := by
      intro m hm
      have hname := h.labelled.of_mem (List.mem_map_of_mem (f := Heading.of) hm)
      obtain ⟨k, _, hk⟩ := exists_related (names_of_finds h.labelled.denotes finds).flip hname
      have hpath : k.path = m.path := hk.path.trans (h.paths m hm).symm
      have hread : tree.read m.path = .ok (Text.octets k.content) := hpath ▸ hk.content
      exact (Tree.spelled_iff.mp (Tree.eq_of_read_file (h.enters hm) (h.get?_eq hm) hread).2).2.2
    exact ⟨finds.unique (h.finds hshort), hshort⟩
  · rintro ⟨rfl, hshort⟩
    exact h.finds hshort

end Holds

end Directory

end SchemaLedger
