import Mathlib.Data.List.MinMax
import SchemaLedger.Proofs.Directory.Padding
import SchemaLedger.Proofs.Directory.Writing

/-! # The names of a directory that grows

Commands that begin in an empty directory never write more digits than the largest ID has, whichever
calls fail on the way. Once renumbered, all names have the same number of digits, and their order is
that of the IDs. -/

namespace SchemaLedger.Directory

open Files (Fits Location Tree)

variable {now : Int} {start tree : Tree} {dir : Path} {loc : Location} {hs : List Heading}

/-- The trees that commands lead to, even where any call on files may fail. -/
inductive Worked (dir : Path) (start : Tree) : Tree → Prop
  | start : Worked dir start start
  | command {tree after : Tree} {result : Except Failure Unit} (h : Worked dir start tree)
      (now : Int) (command : Command)
      (runs : Program.Runs (frailShop now) (command.task dir).run tree result after) :
    Worked dir start after

/-! ## Widths -/

namespace Heading

/-- No name has more digits than the largest ID. -/
def Within (hs : List Heading) : Prop := ∀ h ∈ hs, h.extent ≤ maxWidth hs

theorem maxWidth_append (hs ks : List Heading) :
    maxWidth (hs ++ ks) = max (maxWidth hs) (maxWidth ks) := by
  induction hs with
  | nil => exact (Nat.zero_max _).symm
  | cons h rest ih =>
      change max h.id.width (maxWidth (rest ++ ks)) = max (max h.id.width (maxWidth rest)) _
      rw [ih, Nat.max_assoc]

@[simp] theorem maxWidth_paddedIn (width : Nat) (ids : List Ident) (hs : List Heading) :
    maxWidth (hs.map (·.paddedIn width ids)) = maxWidth hs := by
  rw [maxWidth, List.map_map]
  refine congrArg (List.foldr max 0) (List.map_congr_left fun h _ => ?_)
  exact congrArg Ident.width (paddedIn_id width ids h)

theorem maxWidth_le {width : Nat} (bounded : ∀ h ∈ hs, h.id.width ≤ width) :
    maxWidth hs ≤ width := by
  induction hs with
  | nil => exact Nat.zero_le width
  | cons h rest ih =>
      have hrest := ih fun k hk => bounded k (List.mem_cons_of_mem h hk)
      exact Nat.max_le.mpr ⟨bounded h List.mem_cons_self, hrest⟩

theorem exists_top (present : hs ≠ []) :
    ∃ top ∈ hs, (∀ h ∈ hs, h.id ≤ top.id) ∧ maxWidth hs = top.id.width := by
  let value (h : Heading) : Nat := h.id.value
  have hsome : hs.argmax value ≠ none := fun hnone => present (List.argmax_eq_none.mp hnone)
  obtain ⟨top, htop⟩ := Option.ne_none_iff_exists'.mp hsome
  have hmem := List.argmax_mem htop
  have hlargest : ∀ h ∈ hs, h.id ≤ top.id := fun h hh => List.le_of_mem_argmax hh htop
  refine ⟨top, hmem, hlargest, Nat.le_antisymm ?_ (width_le_maxWidth hmem)⟩
  exact maxWidth_le fun h hh => Ident.width_mono (hlargest h hh)

/-- A new name is padded to a width that is no larger than that of the largest ID. -/
theorem Within.add (within : Within hs) {width : Nat} (id : Ident) (slug : String)
    (hle : width ≤ maxWidth hs) : Within (hs ++ [written width id slug]) := by
  have hwidth : maxWidth (hs ++ [written width id slug]) = max (maxWidth hs) id.width := by
    rw [maxWidth_append]
    exact congrArg _ (Nat.max_zero _)
  intro h hh
  rw [hwidth]
  rcases List.mem_append.mp hh with hh | hh
  · exact Nat.le_trans (within h hh) (Nat.le_max_left _ _)
  · rw [List.mem_singleton.mp hh, extent_written]
    omega

theorem Within.paddedIn (within : Within hs) (ids : List Ident) :
    Within (hs.map (·.paddedIn (maxWidth hs) ids)) := by
  intro h hh
  rw [maxWidth_paddedIn]
  obtain ⟨k, hk, rfl⟩ := List.mem_map.mp hh
  rw [Heading.paddedIn]
  split
  · rw [padded, extent_written, Nat.max_eq_left (width_le_maxWidth hk)]
  · exact within k hk

end Heading

theorem maxWidth_eq_of_top {found : List Migration} {top : Migration} (htop : top ∈ found)
    (largest : ∀ m ∈ found, m.id ≤ top.id) : Migration.maxWidth found = top.id.width := by
  rw [← Heading.maxWidth_of]
  refine Nat.le_antisymm (Heading.maxWidth_le fun h hh => ?_)
    (Heading.width_le_maxWidth (List.mem_map_of_mem (f := Heading.of) htop))
  obtain ⟨m, hm, rfl⟩ := List.mem_map.mp hh
  exact Ident.width_mono (largest m hm)

/-! ## Commands -/

/-- The names of a directory announce migrations, and none has more digits than the largest ID. -/
def Trim (dir : Path) (loc : Location) (tree : Tree) : Prop :=
  ∃ hs, Labelled tree dir loc hs ∧ Heading.Within hs

theorem Labelled.meets_writeNew (labelled : Labelled tree dir loc hs) {m : Made} (width : Nat)
    (clean : Slug.Clean m.slug) (vacant : m.id ∉ hs.map (·.id))
    {ends : Except Failure Unit → Tree → Prop}
    (added : ∀ result after, Labelled after dir loc (hs ++ [.written width m.id m.slug]) →
      ends result after)
    (kept : ∀ failure, ends (.error failure) tree) :
    Program.Meets (frailShop now)
      (writeNew (dir.join (Text.octets (FileName.write width m.id m.slug))) m.content).run ends
      tree := by
  have henters := labelled.denotes.leads.enters (FileName.plain_write width m.id clean)
  refine (meets_writing tree _ m.content).mono ?_
  intro result after hwritten
  cases hwritten with
  | refused error => exact kept _
  | torn opens =>
      obtain ⟨rfl, rfl⟩ := henters.unique opens.enters
      exact added _ _ (labelled.add clean vacant (henters.fits opens.spelled opens.short) _)
  | whole opens =>
      obtain ⟨rfl, rfl⟩ := henters.unique opens.enters
      exact added _ _ (labelled.add clean vacant (henters.fits opens.spelled opens.short) _)

theorem Trim.meets_creation (trim : Trim dir loc tree) {m : Made} (clean : Slug.Clean m.slug)
    {width : List Migration → Nat} (hwidth : ∀ ms, width ms ≤ Migration.maxWidth ms)
    (event : Path → Event) :
    Program.Meets (frailShop now) (creation dir m width event).run
      (fun _ after => Trim dir loc after) tree := by
  obtain ⟨hs, labelled, within⟩ := trim
  rw [creation, Task.meets_bind]
  refine meets_scanning (shows_frailShop now tree) dir ?_ fun _ _ => ⟨hs, labelled, within⟩
  intro ms finds
  cases labelled.announce.unique (announce_of_finds labelled.denotes finds)
  rw [Task.Then, Task.meets_bind, Task.meets_ofExcept]
  cases hvacant : vacant m.id (FileName.write (width ms) m.id m.slug) ms with
  | error failure => exact ⟨_, labelled, within⟩
  | ok =>
      have hnew : m.id ∉ (ms.map Heading.of).map (·.id) := by
        rw [List.map_map]
        exact vacant_eq_ok.mp hvacant
      refine (Task.meets_bind _ _ _ _ _).mpr ?_
      refine labelled.meets_writeNew (width ms) clean hnew ?_ fun _ => ⟨_, labelled, within⟩
      intro result after hafter
      have htrim : Trim dir loc after := by
        refine ⟨_, hafter, within.add _ _ ?_⟩
        rw [Heading.maxWidth_of]
        exact hwidth ms
      cases result with
      | error failure => exact htrim
      | ok =>
          rw [Task.Then, Task.meets_bind]
          exact meets_noting (serves_frailShop now) _ htrim

theorem Trim.meets_renumber (trim : Trim dir loc tree) (write : Bool) :
    Program.Meets (frailShop now) (renumber dir write).run (fun _ after => Trim dir loc after)
      tree := by
  obtain ⟨hs, labelled, within⟩ := trim
  refine (meets_renumbering (serves_frailShop now) (shows_frailShop now tree) labelled write).mono ?_
  rintro result after ⟨ids, hafter⟩
  exact ⟨_, hafter.labelled, within.paddedIn ids⟩

/-- One command keeps the names trim. -/
theorem Trim.meets_command (trim : Trim dir loc tree) (command : Command) :
    Program.Meets (frailShop now) (command.task dir).run (fun _ after => Trim dir loc after)
      tree := by
  have hends : ∀ {α : Type} (result : Except Failure α) (after : Tree), Trim dir loc after →
      Task.Then (frailShop now) (fun _ => pure ()) (fun _ after => Trim dir loc after) result
        after := by
    intro α result after hafter
    cases result <;> exact hafter
  cases command with
  | setUp =>
      have hleads : tree.Leads dir loc := by
        obtain ⟨_, labelled, _⟩ := trim
        exact labelled.denotes.leads
      rw [Command.task, setUp_eq, Task.meets_bind, Task.meets_bind, Task.meets_adapt]
      refine (meets_makeAll_of_leads (serves_frailShop now) hleads).mono ?_
      rintro result after rfl
      cases result with
      | error error => exact trim
      | ok => exact (trim.meets_creation clean_bootstrap (fun _ => Nat.zero_le _) _).mono hends
  | newFile id? description template? =>
      rw [Command.task, Task.meets_bind]
      refine meets_newFile (clock_frailShop now tree) ?_ fun _ => trim
      intro id _
      exact (trim.meets_creation (clean_described id description template?)
        (fun _ => Nat.le_refl _) _).mono hends
  | renumber write =>
      rw [Command.task, Task.meets_bind]
      exact (trim.meets_renumber write).mono hends

theorem Worked.trim (worked : Worked dir start tree) (trim : Trim dir loc start) :
    Trim dir loc tree := by
  induction worked with
  | start => exact trim
  | command _ now command runs ih => exact runs.ends (ih.meets_command command)

theorem trim_of_empty (proper : start.Proper) (denotes : start.Denotes dir loc)
    (empty : start.names loc = []) : Trim dir loc start := by
  refine ⟨[], ⟨proper, denotes, ?_, ?_, ⟨empty, nofun⟩, List.nodup_nil⟩, nofun⟩ <;> simp [empty]

/-! ## All names -/

structure Top (hs : List Heading) (top : Heading) : Prop where
  mem : top ∈ hs
  largest : ∀ h ∈ hs, h.id ≤ top.id

/-- Names that announce migrations with no more digits than the largest ID has. -/
def Sortable (names : List Name) : Prop :=
  ∃ hs, Announce names hs ∧ ∀ h ∈ hs, ∃ top, Top hs top ∧ h.extent ≤ top.id.width

/-- Names with as many digits as the largest ID has, so that the order of the octets is that of the
IDs. -/
def Sorted (names : List Name) : Prop :=
  ∃ hs, Announce names hs ∧ (∀ h ∈ hs, ∃ top, Top hs top ∧ h.extent = top.id.width) ∧
    ∀ a ∈ hs, ∀ b ∈ hs, a.id < b.id ↔ a.entry.precedes b.entry = true ∧ a.entry ≠ b.entry

theorem top_of_mem {h : Heading} (hh : h ∈ hs) :
    ∃ top, Top hs top ∧ Heading.maxWidth hs = top.id.width := by
  obtain ⟨top, htop, hlargest, hwidth⟩ := Heading.exists_top (List.ne_nil_of_mem hh)
  exact ⟨top, ⟨htop, hlargest⟩, hwidth⟩

theorem Trim.sortable (trim : Trim dir loc tree) : Sortable (tree.names loc) := by
  obtain ⟨hs, labelled, within⟩ := trim
  refine ⟨hs, labelled.announce, ?_⟩
  intro h hh
  obtain ⟨top, htop, hwidth⟩ := top_of_mem hh
  exact ⟨top, htop, hwidth ▸ within h hh⟩

theorem Labelled.sorted (labelled : Labelled tree dir loc hs)
    (level : ∀ h ∈ hs, h.extent = Heading.maxWidth hs) : Sorted (tree.names loc) := by
  have hbefore : ∀ a ∈ hs, ∀ b ∈ hs, a.id < b.id → a.entry.precedes b.entry = true := by
    intro a ha b hb hlt
    refine (labelled.announce.precedes_iff ha hb hlt).mpr (.inl ?_)
    rw [level a ha, level b hb]
  refine ⟨hs, labelled.announce, ?_, ?_⟩
  · intro h hh
    obtain ⟨top, htop, hwidth⟩ := top_of_mem hh
    exact ⟨top, htop, (level h hh).trans hwidth⟩
  · intro a ha b hb
    constructor
    · intro hlt
      refine ⟨hbefore a ha b hb hlt, ?_⟩
      intro hentry
      rw [labelled.announce.entry_inj ha hb hentry] at hlt
      exact Nat.lt_irrefl _ hlt
    · rintro ⟨hprecedes, hne⟩
      rcases Nat.lt_trichotomy a.id.value b.id.value with hlt | heq | hgt
      · exact hlt
      · rw [labelled.eq_of_id ha hb (Ident.ext heq)] at hne
        exact absurd rfl hne
      · exact absurd (Octets.precedes_antisymm hprecedes (hbefore b hb a ha hgt)) hne

/-- Once all short names are padded, all are of one length. -/
theorem Trim.sorted (trim : Trim dir loc tree) {needed : List Renaming} {after : Tree}
    (runs : Program.Runs (frailShop now) (renumber dir true).run tree (.ok needed) after) :
    Sorted (after.names loc) := by
  obtain ⟨hs, labelled, within⟩ := trim
  obtain ⟨ids, hafter⟩ := runs.ends
    (meets_renumbering (serves_frailShop now) (shows_frailShop now tree) labelled true)
  refine hafter.labelled.sorted ?_
  intro h hh
  obtain ⟨k, hk, rfl⟩ := List.mem_map.mp hh
  rw [hafter.extent_eq (.inl rfl) hk, Heading.maxWidth_paddedIn, Nat.max_eq_left (within k hk)]

/-- A directory that begins empty and that only commands change stays sortable, and renumbering
sorts it. -/
theorem worked_sortable (proper : start.Proper) (resolves : start.resolve dir = .ok loc)
    (present : start.isDirectory loc = true) (empty : start.names loc = [])
    (worked : Worked dir start tree) :
    Sortable (tree.names loc) ∧ ∀ now needed after,
      Program.Runs (frailShop now) (renumber dir true).run tree (.ok needed) after →
      Sorted (after.names loc) := by
  have hdenotes := Tree.denotes_iff.mpr ⟨resolves, present⟩
  have htrim := worked.trim (trim_of_empty proper hdenotes empty)
  exact ⟨htrim.sortable, fun _ _ _ runs => htrim.sorted runs⟩

/-! ## Two migrations -/

theorem worked_uneven : Worked (.ofText "m") (filled []) uneven := by
  have hnine : Program.run (atWork 0)
      ((Command.newFile (some ⟨9, by decide⟩) "a" none).task (.ofText "m")).run (filled []) =
      (.ok (), filled ["9-a.sql"]) := by decide +kernel
  have hten : Program.run (atWork 0)
      ((Command.newFile (some ⟨10, by decide⟩) "b" none).task (.ofText "m")).run
      (filled ["9-a.sql"]) = (.ok (), uneven) := by decide +kernel
  have hruns := fun command => Program.runs_of_handler (atWork_answers_frail 0)
    (Command.task (.ofText "m") command).run
  have hfirst := hruns (.newFile (some ⟨9, by decide⟩) "a" none) (filled [])
  have hsecond := hruns (.newFile (some ⟨10, by decide⟩) "b" none) (filled ["9-a.sql"])
  rw [hnine] at hfirst
  rw [hten] at hsecond
  exact (Worked.start.command 0 _ hfirst).command 0 _ hsecond

/-- A new file has more digits than one before it, until the names are padded. -/
theorem worked_sortable_uneven :
    Sortable (uneven.names [Text.octets "m"]) ∧ Sorted (even.names [Text.octets "m"]) := by
  obtain ⟨hsortable, hsorted⟩ := worked_sortable filled_nil_proper
    (show (filled []).resolve (.ofText "m") = .ok [Text.octets "m"] by decide +kernel)
    (by decide +kernel) (by decide +kernel) worked_uneven
  exact ⟨hsortable, hsorted 0 _ _ runs_renumber_uneven⟩

end SchemaLedger.Directory
