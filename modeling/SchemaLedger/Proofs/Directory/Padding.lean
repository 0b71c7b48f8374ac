import Mathlib.Data.List.Pairwise
import SchemaLedger.Proofs.Apply.Plan
import SchemaLedger.Proofs.Directory.History
import SchemaLedger.Proofs.Directory.Labels

/-! # The order of names after renumbering

Renumbering pads the names that have too few digits and leaves those that have too many. How far the
order of the names then is that of the IDs depends on the latter only. -/

namespace SchemaLedger.Directory

open Files (Fits Location Tree)

variable {now : Int} {tree : Tree} {dir : Path} {loc : Location} {hs : List Heading}
variable {names : List Name} {found : List Migration}

/-! ## Names in the order of their IDs -/

/-- Sorted by their octets, names announce ascending IDs. -/
def Orderly (names : List Name) : Prop :=
  ∃ hs, Announce (names.mergeSort Octets.precedes) hs ∧ hs.Pairwise fun a b => a.id < b.id

/-- The digits of a name with a smaller ID are as many as those of another name, or else they stand
for no more than what the other name begins with. -/
def InLine (hs : List Heading) : Prop := ∀ a ∈ hs, ∀ b ∈ hs, a.id < b.id →
  b.extent ≤ a.extent ∨ a.id.value * 10 ^ (b.extent - a.extent) ≤ b.id.value

namespace Announce

variable {a b : Heading}

theorem precedes_iff (announce : Announce names hs) (ha : a ∈ hs) (hb : b ∈ hs) (hlt : a.id < b.id) :
    a.entry.precedes b.entry = true ↔
      b.extent ≤ a.extent ∨ a.id.value * 10 ^ (b.extent - a.extent) ≤ b.id.value := by
  have hiff : (Text.octets (FileName.write a.extent a.id a.slug)).precedes
      (Text.octets (FileName.write b.extent b.id b.slug)) = true ↔ _ :=
    FileName.write_precedes_iff hlt (announce.width_le ha) (announce.width_le hb)
  have hentry : ∀ h ∈ hs, h.entry = Text.octets (FileName.write h.extent h.id h.slug) :=
    fun h hh => congrArg Heading.entry (announce.eq_written hh)
  rwa [hentry a ha, hentry b hb]

theorem sorted (announce : Announce names hs) :
    Announce (names.mergeSort Octets.precedes)
      (hs.mergeSort fun a b => a.entry.precedes b.entry) := by
  constructor
  · rw [announce.names_eq]
    exact (List.map_mergeSort (s := Octets.precedes) (f := Heading.entry) fun _ _ _ _ => rfl).symm
  · intro h hh
    exact announce.reads h (List.mem_mergeSort.mp hh)

/-- Headings in the order of their names are in that of their IDs just if no pair of them is not. -/
theorem ascending_iff (announce : Announce names hs) (distinct : (hs.map (·.id)).Nodup)
    (sorted : hs.Pairwise fun a b => a.entry.precedes b.entry = true) :
    (hs.Pairwise fun a b => a.id < b.id) ↔ InLine hs := by
  constructor
  · intro ascending a ha b hb hlt
    let agrees (a b : Heading) : Prop :=
      (a.id < b.id → a.entry.precedes b.entry = true) ∧
        (b.id < a.id → b.entry.precedes a.entry = true)
    have : Std.Symm agrees := ⟨fun _ _ h => ⟨h.2, h.1⟩⟩
    have hagrees : hs.Pairwise agrees := by
      refine (ascending.and sorted).imp ?_
      rintro a b ⟨hlt, hbefore⟩
      exact ⟨fun _ => hbefore, fun hgt => absurd hgt (Nat.lt_asymm hlt)⟩
    have hself : ∀ a ∈ hs, agrees a a := fun a _ =>
      ⟨fun hlt => absurd hlt (Nat.lt_irrefl _), fun hlt => absurd hlt (Nat.lt_irrefl _)⟩
    exact (announce.precedes_iff ha hb hlt).mp ((hagrees.forall_of_forall hself ha hb).1 hlt)
  · intro inline
    refine (sorted.and (List.pairwise_map.mp distinct)).imp_of_mem ?_
    rintro a b ha hb ⟨hbefore, hid⟩
    rcases Nat.lt_trichotomy a.id.value b.id.value with hlt | heq | hgt
    · exact hlt
    · exact absurd (Ident.ext heq) hid
    · have hafter := (announce.precedes_iff hb ha hgt).mpr (inline b hb a ha hgt)
      have hentry := Octets.precedes_antisymm hbefore hafter
      exact absurd (congrArg Heading.id (announce.entry_inj ha hb hentry)) hid

/-- Where no ID is announced twice, it is enough to compare the names pair by pair. -/
theorem orderly_iff (announce : Announce names hs) (distinct : (hs.map (·.id)).Nodup) :
    Orderly names ↔ InLine hs := by
  let before (a b : Heading) : Bool := a.entry.precedes b.entry
  have hperm : (hs.mergeSort before).Perm hs := List.mergeSort_perm hs before
  have hsorted : (hs.mergeSort before).Pairwise fun a b => before a b = true := by
    refine List.pairwise_mergeSort ?_ ?_ hs
    · intro a b c hab hbc
      exact Octets.precedes_trans hab hbc
    intro a b
    rw [Bool.or_eq_true]
    exact Octets.precedes_total a.entry b.entry
  have hascending := announce.sorted.ascending_iff ((hperm.map _).nodup_iff.mpr distinct) hsorted
  have hinline : InLine (hs.mergeSort before) ↔ InLine hs := by
    simp only [InLine, hperm.mem_iff]
  rw [← hinline, ← hascending]
  constructor
  · rintro ⟨ks, hks, hids⟩
    rwa [announce.sorted.unique hks]
  · exact fun hids => ⟨_, announce.sorted, hids⟩

theorem not_orderly (announce : Announce names hs) (distinct : (hs.map (·.id)).Nodup) (ha : a ∈ hs)
    (hb : b ∈ hs) (hlt : a.id < b.id) (longer : a.extent < b.extent)
    (less : b.id.value < a.id.value * 10 ^ (b.extent - a.extent)) : ¬ Orderly names := by
  rw [announce.orderly_iff distinct]
  intro inline
  rcases inline a ha b hb hlt with hle | hle
  · exact absurd longer (Nat.not_lt.mpr hle)
  · exact absurd less (Nat.not_lt.mpr hle)

end Announce

/-! ## Renaming -/

structure Due (dir : Path) (hs : List Heading) (width : Nat) (m : Migration) : Prop where
  path : m.path = dir.join (Heading.of m).entry
  mem : Heading.of m ∈ hs
  short : (Heading.of m).extent < width

section Due

variable {m : Migration} {width : Nat} (due : Due dir hs width m) (labelled : Labelled tree dir loc hs)

include due labelled

theorem Due.target :
    tree.Enters (padding width m).target loc ((Heading.of m).padded width).entry ∧
      tree.get? (((Heading.of m).padded width).entry :: loc) = none := by
  obtain ⟨hpath, hmem, hshort⟩ := due
  have hclean := labelled.clean hmem
  constructor
  · rw [padding, hpath]
    exact labelled.denotes.enters_sibling (labelled.fits _ (labelled.of_mem hmem)).plain
      (FileName.plain_write width m.id hclean)
  · refine labelled.fresh hclean ?_
    intro k hk hid
    rwa [labelled.eq_of_id hk hmem hid]

theorem Due.source : tree.Enters (padding width m).source loc (Heading.of m).entry ∧
    ∃ entry, tree.get? ((Heading.of m).entry :: loc) = some entry ∧ entry ≠ .directory := by
  have hold := labelled.of_mem due.mem
  obtain ⟨entry, hfound⟩ := (mem_names_iff labelled.proper).mp hold
  refine ⟨?_, entry, hfound, ?_⟩
  · rw [padding, due.path]
    exact labelled.enters due.mem
  · rintro rfl
    exact (labelled.leaves _ hold).undivided hfound

theorem Due.carried {after : Tree}
    (renamed : tree.rename (padding width m).source (padding width m).target = .ok after) :
    Fits ((Heading.of m).padded width).entry ∧
      after = tree.carry ((Heading.of m).entry :: loc) (((Heading.of m).padded width).entry :: loc) := by
  obtain ⟨htarget, hfresh⟩ := due.target labelled
  obtain ⟨hsource, entry, hfound, hleaf⟩ := due.source labelled
  obtain ⟨hspelled, hlength, hafter⟩ := Tree.rename_entry labelled.proper hsource htarget hfound
    hleaf hfresh renamed
  exact ⟨htarget.fits hspelled hlength, hafter⟩

theorem Due.renamed {after : Tree}
    (renamed : tree.rename (padding width m).source (padding width m).target = .ok after) :
    Labelled after dir loc (hs.map (·.paddedIn width [m.id])) := by
  obtain ⟨hfits, rfl⟩ := due.carried labelled renamed
  exact labelled.rename due.mem due.short hfits

end Due

theorem Due.later {m : Migration} {ids : List Ident} {width : Nat} (due : Due dir hs width m)
    (other : m.id ∉ ids) : Due dir (hs.map (·.paddedIn width ids)) width m where
  path := due.path
  mem := List.mem_map.mpr ⟨_, due.mem, if_neg other⟩
  short := due.short

section Surroundings

variable {around : Surroundings host Tree} (serves : Serves around)

include serves

/-- Names are padded one after the other, until all are or a renaming fails. -/
theorem meets_padEach (labelled : Labelled tree dir loc hs) {todo : List Migration} {width : Nat}
    (due : ∀ m ∈ todo, Due dir hs width m) (distinct : (todo.map (·.id)).Nodup) :
    Program.Meets around (renameEach (todo.map (padding width))).run
      (fun result after => ∃ done later, todo = done ++ later ∧
        (∀ value, result = .ok value → later = []) ∧
        Labelled after dir loc (hs.map (·.paddedIn width (done.map (·.id))))) tree := by
  -- After a renaming the names announce the same IDs, and the rest goes on from them.
  induction todo generalizing tree hs with
  | nil => exact ⟨[], [], rfl, fun _ _ => rfl, by simpa using labelled⟩
  | cons m rest ih =>
      obtain ⟨hnew, hdistinct⟩ := List.nodup_cons.mp distinct
      rw [List.map_cons, renameEach, Task.meets_bind]
      refine meets_rename serves ?_ fun error => ?_
      · intro after hrenamed
        have hlabelled := (due m List.mem_cons_self).renamed labelled hrenamed
        have hdue : ∀ other ∈ rest, Due dir (hs.map (·.paddedIn width [m.id])) width other := by
          intro other hother
          refine (due other (List.mem_cons_of_mem _ hother)).later ?_
          rw [List.mem_singleton]
          exact fun hid => hnew (List.mem_map.mpr ⟨other, hother, hid⟩)
        rw [Task.Then, Task.meets_ofExcept_ok, Task.meets_bind]
        refine meets_noting serves _ ((ih hlabelled hdue hdistinct).mono ?_)
        rintro result last ⟨done, later, rfl, hlater, hlast⟩
        rw [Heading.map_paddedIn_cons] at hlast
        exact ⟨m :: done, later, rfl, hlater, hlast⟩
      · refine ⟨[], m :: rest, rfl, fun value hvalue => ?_, by simpa using labelled⟩
        cases hvalue

end Surroundings

/-! ## Renumbering -/

/-- What renumbering leads to: some short names are padded, and all of them if it succeeds. -/
structure Renumbered (write : Bool) (tree : Tree) (dir : Path) (loc : Location) (hs : List Heading)
    (ids : List Ident) (result : Except Failure (List Renaming)) (after : Tree) : Prop where
  labelled : Labelled after dir loc (hs.map (·.paddedIn (Heading.maxWidth hs) ids))
  short : ∀ h ∈ hs, h.id ∈ ids → h.extent < Heading.maxWidth hs
  all : ∀ needed, result = .ok needed → write = true ∨ needed = [] →
    ∀ h ∈ hs, h.extent < Heading.maxWidth hs → h.id ∈ ids
  unchanged : write = false → after = tree

theorem Renumbered.unpadded {write : Bool} {result : Except Failure (List Renaming)}
    (labelled : Labelled tree dir loc hs)
    (all : ∀ needed, result = .ok needed → write = true ∨ needed = [] →
      ∀ h ∈ hs, Heading.maxWidth hs ≤ h.extent) :
    Renumbered write tree dir loc hs [] result tree where
  labelled := by simpa using labelled
  short := by simp
  all := fun needed hresult hneeded h hh hshort =>
    absurd (all needed hresult hneeded h hh) (Nat.not_le.mpr hshort)
  unchanged := fun _ => rfl

/-- The migrations whose names are to be padded, ascending by ID. -/
def shorts (ms : List Migration) : List Migration :=
  (Migration.sortById ms).filter (isShort (Migration.maxWidth ms))

theorem renamings_eq (ms : List Migration) :
    renamings ms = (shorts ms).map (padding (Migration.maxWidth ms)) := rfl

theorem mem_shorts {m : Migration} :
    m ∈ shorts found ↔ m ∈ found ∧ (Heading.of m).extent < Heading.maxWidth (found.map .of) := by
  rw [shorts, List.mem_filter, Migration.sortById, List.mem_mergeSort, isShort, decide_eq_true_eq,
    Heading.maxWidth_of]
  rfl

theorem shorts_distinct (distinct : (found.map (·.id)).Nodup) : ((shorts found).map (·.id)).Nodup := by
  have hsorted : ((Migration.sortById found).map (·.id)).Nodup :=
    ((List.mergeSort_perm found _).map _).nodup_iff.mpr distinct
  exact hsorted.sublist (List.filter_sublist.map _)

theorem due_of_shorts (reads : List.Forall₂ (Reads (.ofTree tree) dir) names found) :
    ∀ m ∈ shorts found, Due dir (found.map .of) (Heading.maxWidth (found.map .of)) m := by
  intro m hm
  obtain ⟨hm, hshort⟩ := mem_shorts.mp hm
  obtain ⟨name, _, hread⟩ := exists_related reads hm
  refine ⟨?_, List.mem_map_of_mem hm, hshort⟩
  rw [hread.path, (heading_eq_ok hread.heading).1]
  rfl

theorem Renumbered.padded {done later : List Migration} {result : Except Failure (List Renaming)}
    {after : Tree} (split : shorts found = done ++ later)
    (whole : ∀ needed, result = .ok needed → later = [])
    (distinct : ((found.map Heading.of).map (·.id)).Nodup)
    (labelled : Labelled after dir loc ((found.map Heading.of).map
      (·.paddedIn (Heading.maxWidth (found.map .of)) (done.map (·.id))))) :
    Renumbered true tree dir loc (found.map .of) (done.map (·.id)) result after := by
  refine ⟨labelled, ?_, ?_, nofun⟩
  · intro h hh hid
    obtain ⟨m, hm, hid⟩ := List.mem_map.mp hid
    have hshort : m ∈ shorts found := by
      rw [split]
      exact List.mem_append_left _ hm
    obtain ⟨hm, hshort⟩ := mem_shorts.mp hshort
    rwa [List.inj_on_of_nodup_map distinct hh (List.mem_map_of_mem hm) hid.symm]
  · intro needed hneeded _ h hh hshort
    obtain ⟨m, hm, rfl⟩ := List.mem_map.mp hh
    rw [whole needed hneeded, List.append_nil] at split
    rw [← split]
    exact List.mem_map_of_mem (mem_shorts.mpr ⟨hm, hshort⟩)

section Surroundings

variable {around : Surroundings host Tree} (serves : Serves around)

include serves

theorem meets_renumbering {faulty : Prop} (shows : Shows around (.ofTree tree) faulty tree)
    (labelled : Labelled tree dir loc hs) (write : Bool) :
    Program.Meets around (renumber dir write).run
      (fun result after => ∃ ids, Renumbered write tree dir loc hs ids result after) tree := by
  rw [renumber, Task.meets_bind]
  refine meets_scanning shows dir ?_ fun failure _ => ?_
  · intro ms finds
    have hreads := names_of_finds labelled.denotes finds
    cases labelled.announce.unique (announce_of_finds labelled.denotes finds)
    obtain ⟨_, _, _, hdistinct⟩ := finds
    rw [Task.Then]
    split
    · next hempty =>
        have hnone : ms = [] := List.isEmpty_iff.mp hempty
        subst hnone
        exact ⟨[], .unpadded labelled fun _ _ _ h hh => by cases hh⟩
    · rw [renamings_eq, ← Heading.maxWidth_of]
      cases write with
      | true =>
          refine (Task.meets_bind _ _ _ _ _).mpr ?_
          refine (meets_padEach serves labelled (due_of_shorts hreads)
            (shorts_distinct hdistinct)).mono ?_
          rintro result after ⟨done, later, hsplit, hlater, hafter⟩
          cases result with
          | ok => exact ⟨_, .padded hsplit (fun _ _ => hlater _ rfl) labelled.distinct hafter⟩
          | error failure =>
              exact ⟨_, .padded hsplit (fun _ h => by cases h) labelled.distinct hafter⟩
      | false =>
          refine (Task.meets_bind _ _ _ _ _).mpr ?_
          refine meets_noting serves _ ⟨[], .unpadded labelled ?_⟩
          rintro needed hneeded hnone h hh
          obtain ⟨m, hm, rfl⟩ := List.mem_map.mp hh
          cases hneeded
          have hnone : shorts ms = [] := List.map_eq_nil_iff.mp (hnone.resolve_left Bool.false_ne_true)
          refine Nat.le_of_not_lt fun hshort => ?_
          have hm := mem_shorts.mpr ⟨hm, hshort⟩
          rw [hnone] at hm
          exact List.not_mem_nil hm
  · exact ⟨[], .unpadded labelled fun _ hneeded => by cases hneeded⟩

end Surroundings

/-! ## After renumbering -/

theorem Heading.width_le_maxWidth {h : Heading} (hh : h ∈ hs) : h.id.width ≤ maxWidth hs := by
  induction hs with
  | nil => cases hh
  | cons k rest ih =>
      change _ ≤ max k.id.width (maxWidth rest)
      rcases List.mem_cons.mp hh with rfl | hh
      · exact Nat.le_max_left _ _
      · exact Nat.le_trans (ih hh) (Nat.le_max_right _ _)

/-- Once all short names are padded, the others are as they were. -/
theorem Renumbered.extent_eq {write : Bool} {ids : List Ident} {needed : List Renaming}
    {after : Tree} (h : Renumbered write tree dir loc hs ids (.ok needed) after)
    (carried : write = true ∨ needed = []) {k : Heading} (hk : k ∈ hs) :
    (k.paddedIn (Heading.maxWidth hs) ids).extent = max (Heading.maxWidth hs) k.extent := by
  by_cases hshort : k.extent < Heading.maxWidth hs
  · rw [Heading.paddedIn, if_pos (h.all needed rfl carried k hk hshort), Heading.padded,
      Heading.extent_written, Nat.max_eq_left (Nat.le_of_lt hshort)]
    exact Nat.max_eq_left (Heading.width_le_maxWidth hk)
  · have hkept : k.id ∉ ids := fun hid => hshort (h.short k hk hid)
    rw [Heading.paddedIn, if_neg hkept, Nat.max_eq_right (Nat.le_of_not_lt hshort)]

/-- The number of digits that the name of a migration has once the names are padded. -/
def reach (ms : List Migration) (m : Migration) : Nat := max (Migration.maxWidth ms) m.digits.length

/-- Once padded, a name that has more digits than that of a smaller ID begins with a number that is
no less. -/
def Aligned (ms : List Migration) : Prop := ∀ a ∈ ms, ∀ b ∈ ms, a.id < b.id →
  reach ms b ≤ reach ms a ∨ a.id.value * 10 ^ (reach ms b - reach ms a) ≤ b.id.value

theorem Renumbered.orderly_iff {write : Bool} {ids : List Ident} {needed : List Renaming}
    {after : Tree} (h : Renumbered write tree dir loc (found.map .of) ids (.ok needed) after)
    (carried : write = true ∨ needed = []) : Orderly (after.names loc) ↔ Aligned found := by
  have hextent : ∀ m ∈ found, ((Heading.of m).paddedIn (Heading.maxWidth (found.map .of)) ids).extent =
      reach found m := by
    intro m hm
    rw [h.extent_eq carried (List.mem_map_of_mem hm), Heading.maxWidth_of]
    rfl
  rw [h.labelled.announce.orderly_iff h.labelled.distinct]
  simp only [InLine, Aligned, List.mem_map, forall_exists_index, and_imp, forall_apply_eq_imp_iff₂,
    Heading.paddedIn_id]
  refine forall₂_congr fun a ha => forall₂_congr fun b hb => ?_
  rw [hextent a ha, hextent b hb]
  rfl

/-- Where no name has more digits than the largest ID, the padded names are in line. -/
theorem aligned_of_within (within : ∀ m ∈ found, m.digits.length ≤ Migration.maxWidth found) :
    Aligned found := by
  intro a ha b hb _
  left
  rw [reach, reach, Nat.max_eq_left (within a ha), Nat.max_eq_left (within b hb)]

/-- When the order of the names is that of the IDs, after a renumbering or where there is nothing
to rename. -/
theorem renumbered_orderly_iff (sound : tree.Sound) (resolves : tree.resolve dir = .ok loc)
    (scans : seen (.ofTree tree) dir = .ok found) :
    (∀ needed after,
      Program.Runs (frailShop now) (renumber dir true).run tree (.ok needed) after →
      after.resolve dir = .ok loc ∧ (Orderly (after.names loc) ↔ Aligned found)) ∧
    (∀ after, Program.Runs (frailShop now) (renumber dir false).run tree (.ok []) after →
      after = tree ∧ (Orderly (tree.names loc) ↔ Aligned found)) ∧
    ((∀ m ∈ found, m.digits.length ≤ Migration.maxWidth found) → Aligned found) := by
  have hfinds := seen_eq_ok.mp scans
  obtain ⟨loc', hloc'⟩ := exists_denotes hfinds
  cases resolves.symm.trans (Tree.denotes_iff.mp hloc').1
  have hlabelled := Labelled.of_finds sound hloc' hfinds
  have hmeets := meets_renumbering (serves_frailShop now) (shows_frailShop now tree) hlabelled
  refine ⟨?_, ?_, aligned_of_within⟩
  · intro needed after hruns
    obtain ⟨ids, hrenumbered⟩ := hruns.ends (hmeets true)
    have hdenotes := hrenumbered.labelled.denotes
    exact ⟨(Tree.denotes_iff.mp hdenotes).1, hrenumbered.orderly_iff (.inl rfl)⟩
  · intro after hruns
    obtain ⟨ids, hrenumbered⟩ := hruns.ends (hmeets false)
    cases hrenumbered.unchanged rfl
    exact ⟨rfl, hrenumbered.orderly_iff (.inr rfl)⟩

/-! ## Two directories -/

/-- Where a scan ascends, renumbering needs no sorting. -/
theorem run_renumber {found : List Migration} {write : Bool}
    (scans : Program.run (atWork now) (scan dir).run tree = (.ok found, tree))
    (ascending : found.Pairwise fun a b => a.id ≤ b.id) (present : found.isEmpty = false) :
    Program.run (atWork now) (renumber dir write).run tree =
      Program.run (atWork now) (do
        let needed := (found.filter (isShort (Migration.maxWidth found))).map
          (padding (Migration.maxWidth found))
        if write then renameEach needed else Task.note (.leftNames needed.length)
        pure needed : Task Failure (List Renaming)).run tree := by
  rw [renumber, Task.run_bind, scans]
  dsimp only
  rw [present, renamings, Apply.sortById_of_ascending ascending]
  rfl

def uneven : Tree := filled ["9-a.sql", "10-b.sql"]

def even : Tree := filled ["09-a.sql", "10-b.sql"]

def nineAndTen : List Migration :=
  [⟨.ofText "m/9-a.sql", "9-a.sql", Bootstrap.placeholder, ⟨9, by decide⟩, "a", "9"⟩,
    ⟨.ofText "m/10-b.sql", "10-b.sql", Bootstrap.placeholder, ⟨10, by decide⟩, "b", "10"⟩]

theorem scan_uneven : Program.run (atWork 0) (scan (.ofText "m")).run uneven =
    (.ok nineAndTen, uneven) := by decide +kernel

theorem runs_renumber_uneven : Program.Runs (frailShop 0) (renumber (.ofText "m") true).run uneven
    (.ok [⟨.ofText "m/9-a.sql", .ofText "m/09-a.sql"⟩]) even := by
  have hrun : Program.run (atWork 0) (renumber (.ofText "m") true).run uneven =
      (.ok [⟨.ofText "m/9-a.sql", .ofText "m/09-a.sql"⟩], even) := by
    rw [run_renumber scan_uneven (by decide) rfl]
    decide +kernel
  have hruns := Program.runs_of_handler (atWork_answers_frail 0) (renumber (.ofText "m") true).run
    uneven
  rwa [hrun] at hruns

/-- Without superfluous digits, renumbering puts the names in order. -/
theorem renumbered_orderly_uneven :
    ¬ Orderly (uneven.names [Text.octets "m"]) ∧ Orderly (even.names [Text.octets "m"]) := by
  constructor
  · have hannounce : Announce (uneven.names [Text.octets "m"])
        [.written 1 ⟨9, by decide⟩ "a", .written 2 ⟨10, by decide⟩ "b"] :=
      ⟨by decide +kernel, by decide +kernel⟩
    exact hannounce.not_orderly (by decide) List.mem_cons_self
      (List.mem_cons_of_mem _ List.mem_cons_self) (by decide) (by decide +kernel) (by decide +kernel)
  · have hsound : uneven.Sound := filled_sound (by decide) (by decide)
    have hresolve : uneven.resolve (.ofText "m") = .ok [Text.octets "m"] := by decide +kernel
    have hscan : seen (.ofTree uneven) (.ofText "m") = .ok nineAndTen := by decide +kernel
    obtain ⟨hordered, _, haligned⟩ := renumbered_orderly_iff hsound hresolve hscan
    refine (hordered _ _ runs_renumber_uneven).2.mpr (haligned ?_)
    decide +kernel

/-- Names with more digits than the largest ID has are left, and no longer in order. -/
theorem renumber_leaves_disorder :
    (filled ["1-a.sql", "002-b.sql"]).Sound ∧
    (∀ write, Program.run (atWork 0) (renumber (.ofText "m") write).run
        (filled ["1-a.sql", "002-b.sql"]) = (.ok [], filled ["1-a.sql", "002-b.sql"])) ∧
    ¬ Orderly ((filled ["1-a.sql", "002-b.sql"]).names [Text.octets "m"]) := by
  refine ⟨filled_sound (by decide) (by decide), ?_, ?_⟩
  · have hscan : Program.run (atWork 0) (scan (.ofText "m")).run (filled ["1-a.sql", "002-b.sql"]) =
        (.ok [⟨.ofText "m/1-a.sql", "1-a.sql", Bootstrap.placeholder, ⟨1, by decide⟩, "a", "1"⟩,
          ⟨.ofText "m/002-b.sql", "002-b.sql", Bootstrap.placeholder, ⟨2, by decide⟩, "b", "002"⟩],
          filled ["1-a.sql", "002-b.sql"]) := by decide +kernel
    intro write
    rw [run_renumber hscan (by decide) rfl]
    cases write <;> decide +kernel
  · have hannounce : Announce ((filled ["1-a.sql", "002-b.sql"]).names [Text.octets "m"])
        [.written 1 ⟨1, by decide⟩ "a", .written 3 ⟨2, by decide⟩ "b"] :=
      ⟨by decide +kernel, by decide +kernel⟩
    exact hannounce.not_orderly (by decide) List.mem_cons_self
      (List.mem_cons_of_mem _ List.mem_cons_self) (by decide) (by decide +kernel) (by decide +kernel)

end SchemaLedger.Directory
