import SchemaLedger.Proofs.Directory.Renaming
import SchemaLedger.Proofs.Listing

/-! # Renumbering a directory of files

What a directory holds while it is renumbered is described by the names that have been padded so
far. From there the other renamings are still needed, none of them meets an entry in its way, and
at the end no name is short. -/

namespace SchemaLedger

open Files (IoError Location Tree)

namespace Directory

/-! ## What is short once some names are padded -/

section Shorts

variable {dir : Path} {found ms done later : List Migration} {f : Migration → Migration}

/-- The migrations of a directory once the names of some of them are padded to the largest width. -/
def midway (dir : Path) (found done : List Migration) : List Migration :=
  found.map (·.paddedIn dir (Migration.maxWidth found) (done.map (·.id)))

theorem shorts_map (same : ∀ m, (f m).id = m.id) (ms : List Migration) : shorts (ms.map f) =
    ((Migration.sortById ms).filter fun m => isShort (Migration.maxWidth ms) (f m)).map f := by
  have hwidth : Migration.maxWidth (ms.map f) = Migration.maxWidth ms := by
    rw [Migration.maxWidth, Migration.maxWidth, List.map_map]
    exact congrArg (List.foldr max 0) (List.map_congr_left fun m _ => congrArg _ (same m))
  have hsorted : Migration.sortById (ms.map f) = (Migration.sortById ms).map f := by
    refine (List.map_mergeSort fun a _ b _ => ?_).symm
    rw [same, same]
  rw [shorts, hwidth, hsorted, List.filter_map]
  rfl

theorem length_digits_paddedIn (width : Nat) {ids : List Ident} {m : Migration} (hid : m.id ∈ ids) :
    (m.paddedIn dir width ids).digits.length = max width m.id.width := by
  have hpadded : (Heading.of m).paddedIn width ids = .written width m.id m.slug := if_pos hid
  rw [Migration.paddedIn, hpadded]
  exact Heading.extent_written width m.id m.slug

/-- A name that has been padded is no longer short, and the others are as they were. -/
theorem isShort_paddedIn (width : Nat) (ids : List Ident) (m : Migration) :
    isShort width (m.paddedIn dir width ids) = (decide (m.id ∉ ids) && isShort width m) := by
  by_cases hid : m.id ∈ ids
  · simp [isShort, length_digits_paddedIn width hid, hid]
  · have hkept : (Heading.of m).paddedIn width ids = .of m := if_neg hid
    rw [Migration.paddedIn, hkept, decide_eq_true hid, Bool.true_and]
    rfl

/-- Once the first of the short names are padded, the rest are short. -/
theorem shorts_midway (distinct : (found.map (·.id)).Nodup)
    (paths : ∀ m ∈ found, m.path = dir.join (Text.octets m.name))
    (split : shorts found = done ++ later) : shorts (midway dir found done) = later := by
  have hdistinct := shorts_distinct distinct
  rw [split, List.map_append, List.nodup_append] at hdistinct
  have hother : ∀ m ∈ later, m.id ∉ done.map (·.id) := fun m hm hid =>
    hdistinct.2.2 _ hid _ (List.mem_map_of_mem hm) rfl
  have hkept : ∀ m ∈ later,
      m.paddedIn dir (Migration.maxWidth found) (done.map (·.id)) = m := by
    intro m hm
    have hfound : m ∈ shorts found := by
      rw [split]
      exact List.mem_append_right done hm
    exact Migration.paddedIn_of_not_mem (paths m (mem_shorts.mp hfound).1) (hother m hm)
  have hrest : (shorts found).filter (fun m => decide (m.id ∉ done.map (·.id))) = later := by
    have hdone : done.filter (fun m => decide (m.id ∉ done.map (·.id))) = [] :=
      List.filter_eq_nil_iff.mpr fun m hm => by simpa using ⟨m, hm, rfl⟩
    have hlater : later.filter (fun m => decide (m.id ∉ done.map (·.id))) = later :=
      List.filter_eq_self.mpr fun m hm => decide_eq_true (hother m hm)
    rw [split, List.filter_append, hdone, hlater, List.nil_append]
  -- Padding changes no ID, so the order is that of the IDs before; only the filter differs.
  rw [midway, shorts_map fun _ => Migration.paddedIn_id]
  simp only [isShort_paddedIn]
  rw [← List.filter_filter, ← shorts, hrest, List.map_congr_left hkept, List.map_id']

end Shorts

/-! ## Renamings in a setting -/

end Directory

def Renaming.exchange (r : Renaming) (answer : Except IoError Unit) : Exchange :=
  ⟨.files (.rename r.source r.target), answer⟩

namespace Directory

/-- How renamings end that have come to a point in their list, and what is recorded there: none is
left, or the next one has failed. -/
inductive Stops : List Renaming → Except Failure Unit → List Exchange → Prop
  | finished : Stops [] (.ok ()) []
  | failed (r : Renaming) (rest : List Renaming) (error : IoError) :
    Stops (r :: rest) (.error (.movingFile r error)) [r.exchange (.error error)]

section Setting

variable {σ : Type} {setting : Setting σ} {listing : Listing} {site after : Site σ} {dir : Path}
variable {found : List Migration} {r : Renaming} {done later : List Renaming}
variable {result : Except Failure Unit}

/-- Some renamings have been carried out, and the others have not been tried, but for the first of
them, which has failed. -/
structure Progress (site after : Site σ) (done later : List Renaming)
    (result : Except Failure Unit) : Prop where
  tree : carryOut done site.tree = .ok after.tree
  store : after.store = site.store
  stops : ∃ last, Stops later result last ∧
    after.record = site.record ++ done.map (·.exchange (.ok ())) ++ last

theorem Progress.cons {mid : Site σ} (h : Progress mid after done later result)
    (renamed : site.tree.rename r.source r.target = .ok mid.tree) (store : mid.store = site.store)
    (record : mid.record = site.record ++ [r.exchange (.ok ())]) :
    Progress site after (r :: done) later result := by
  obtain ⟨last, hstops, hrecord⟩ := h.stops
  refine ⟨?_, h.store.trans store, last, hstops, ?_⟩
  · rw [carryOut, renamed]
    exact h.tree
  · rw [hrecord, record, List.map_cons, ← List.append_cons]

theorem meets_renaming {ε : Type} {ends : Except ε (Except IoError Unit) → Site σ → Prop}
    (hok : ∀ mid : Site σ, site.tree.rename r.source r.target = .ok mid.tree →
      mid.store = site.store → mid.record = site.record ++ [r.exchange (.ok ())] →
      ends (.ok (.ok ())) mid)
    (herror : ∀ error (mid : Site σ), mid.tree = site.tree → mid.store = site.store →
      mid.record = site.record ++ [r.exchange (.error error)] → ends (.ok (.error error)) mid) :
    Program.Meets (setting.surroundings listing)
      (Task.files (.rename r.source r.target) : Task ε _).run ends site := by
  rw [Task.meets_files]
  refine ⟨trivial, ?_⟩
  intro answer mid hanswer
  obtain ⟨hreply, rfl⟩ := Prod.mk.inj hanswer
  have hrecord : (setting.changed (.rename r.source r.target) site).record =
      site.record ++ [r.exchange answer] := by
    rw [Setting.changed, hreply]
    rfl
  have hconforms := setting.conforms site.record (.rename r.source r.target) site.tree
  rw [hreply] at hconforms
  rcases ((serves_frailShop setting.now).rename site.tree r.source r.target).2 _ _ hconforms with
    ⟨rfl, hrenamed⟩ | ⟨⟨error, rfl⟩, hsame⟩
  · exact hok _ hrenamed rfl hrecord
  · exact herror error _ hsame rfl hrecord

/-- Renamings are carried out one after the other, until all are or one fails. -/
theorem meets_renameEach_progress (rs : List Renaming) :
    Program.Meets (setting.surroundings listing) (renameEach rs).run
      (fun result after => ∃ done later, rs = done ++ later ∧
        Progress site after done later result) site := by
  induction rs generalizing site with
  | nil =>
      refine ⟨[], [], rfl, rfl, rfl, [], .finished, ?_⟩
      rw [List.map_nil, List.append_nil, List.append_nil]
  | cons r rest ih =>
      rw [renameEach, Task.meets_bind]
      refine meets_renaming ?_ ?_
      · intro mid hrenamed hstore hrecord
        rw [Task.Then, Task.meets_ofExcept_ok, Task.meets_bind]
        refine Setting.meets_noting (ih.mono ?_)
        rintro result after ⟨done, later, rfl, hprogress⟩
        exact ⟨r :: done, later, rfl, hprogress.cons hrenamed hstore hrecord⟩
      · intro error mid htree hstore hrecord
        refine ⟨[], r :: rest, rfl, ?_, hstore, _, .failed r rest error, ?_⟩
        · rw [carryOut, htree]
        · rw [hrecord, List.map_nil, List.append_nil]

theorem renamings_nil : renamings [] = [] := by
  rw [renamings, Migration.sortById, List.mergeSort_nil]
  rfl

variable (setting listing site)

theorem run_renumber_false (dir : Path) :
    Program.run (setting.handler listing) (renumber dir false).run site =
    ((seen (listing.sight site.tree) dir).map renamings, site) := by
  rw [renumber, Task.run_bind, Setting.run_scan]
  cases seen (listing.sight site.tree) dir with
  | error failure => rfl
  | ok ms =>
      cases ms with
      | nil =>
          change _ = (Except.ok (renamings []), site)
          rw [renamings_nil]
          rfl
      | cons m rest => rfl

theorem run_renumber_true (scans : seen (listing.sight site.tree) dir = .ok found) :
    Program.run (setting.handler listing) (renumber dir true).run site =
      ((Program.run (setting.handler listing) (renameEach (renamings found)).run site).1.map
        fun _ => renamings found,
      (Program.run (setting.handler listing) (renameEach (renamings found)).run site).2) := by
  rw [renumber, Task.run_bind, Setting.run_scan, scans]
  cases found with
  | nil =>
      rw [renamings_nil]
      rfl
  | cons m rest =>
      change Program.run (setting.handler listing) (do
        renameEach (renamings (m :: rest))
        pure (renamings (m :: rest)) : Task Failure (List Renaming)).run site = _
      rw [Task.run_bind]
      rcases Program.run (setting.handler listing) (renameEach (renamings (m :: rest))).run site with
        ⟨failure | value, after⟩ <;> rfl

theorem exists_progress (scans : seen (listing.sight site.tree) dir = .ok found) :
    ∃ done later result after, renamings found = done ++ later ∧
      Program.run (setting.handler listing) (renumber dir true).run site =
        (result.map fun _ => renamings found, after) ∧ Progress site after done later result := by
  have hmeets : Program.Meets (setting.surroundings listing) (renameEach (renamings found)).run
      _ site := meets_renameEach_progress (renamings found)
  obtain ⟨done, later, hsplit, hprogress⟩ := Setting.run_of_meets hmeets
  exact ⟨done, later, _, _, hsplit, run_renumber_true setting listing site scans, hprogress⟩

end Setting

/-! ## Where renamings lead -/

/-- A scan succeeds in a directory of some migrations exactly if no path is too long, and then it
finds them, in any order. -/
structure Scans (tree : Tree) (dir : Path) (ms : List Migration) : Prop where
  succeeds : ∀ listing : Listing, (∃ found, seen (listing.sight tree) dir = .ok found) ↔
    ∀ m ∈ ms, m.path.octets.length < Tree.pathLimit
  finds : ∀ (listing : Listing) found, seen (listing.sight tree) dir = .ok found → found.Perm ms

section Holds

variable {tree after : Tree} {dir : Path} {loc : Location} {found ms done later : List Migration}
variable {m : Migration} {listing : Listing}

theorem mem_shorts_iff :
    m ∈ shorts found ↔ m ∈ found ∧ m.digits.length < Migration.maxWidth found := by
  rw [mem_shorts, Heading.maxWidth_of]
  rfl

theorem exists_holds (sound : tree.Sound) (resolves : tree.resolve dir = .ok loc)
    (files : ∀ x ∈ tree.entriesIn loc, ∃ content, x.2 = .file content)
    (scans : seen (listing.sight tree) dir = .ok found) :
    ∃ ms, Holds tree dir loc ms ∧ found.Perm ms := by
  obtain ⟨ms, hfinds, hperm⟩ := (seen_eq_ok.mp scans).relist .plain
  rw [Listing.sight_plain] at hfinds
  obtain ⟨loc', hdenotes⟩ := exists_denotes hfinds
  cases resolves.symm.trans (Tree.denotes_iff.mp hdenotes).1
  exact ⟨ms, .of_finds sound hdenotes files hfinds, hperm.symm⟩

section Start

variable (h : Holds tree dir loc ms)

include h

theorem Holds.distinct : (ms.map (·.id)).Nodup := by
  have hdistinct := h.labelled.distinct
  rwa [List.map_map] at hdistinct

theorem Holds.scans : Scans tree dir ms := by
  have hplain : ∀ found, seen (Listing.plain.sight tree) dir = .ok found ↔
      found = ms ∧ ∀ m ∈ ms, m.path.octets.length < Tree.pathLimit := by
    intro found
    rw [seen_eq_ok, Listing.sight_plain]
    exact h.finds_iff
  constructor
  · intro listing
    rw [exists_seen_iff listing .plain]
    simp only [hplain, exists_and_right, exists_eq, true_and]
  · intro listing found hfound
    obtain ⟨found', hfound', hperm⟩ := (seen_eq_ok.mp hfound).relist .plain
    cases ((hplain found').mp (seen_eq_ok.mpr hfound')).1
    exact hperm.symm

theorem Holds.due_shorts (hm : m ∈ shorts ms) : Due dir (ms.map .of) (Migration.maxWidth ms) m :=
  h.due (mem_shorts_iff.mp hm).1 (mem_shorts_iff.mp hm).2

/-- The first of the renamings lead from what has been found to what has padded names. -/
theorem Holds.advance (split : shorts ms = done ++ later)
    (carried : carryOut (done.map (padding (Migration.maxWidth ms))) tree = .ok after) :
    Holds after dir loc (midway dir ms done) ∧ tree.DifferIn loc after := by
  refine h.renameAll (fun m hm => h.due_shorts ?_) ?_ carried
  · rw [split]
    exact List.mem_append_left later hm
  · have hdistinct := shorts_distinct h.distinct
    rw [split, List.map_append] at hdistinct
    exact (List.nodup_append.mp hdistinct).1

/-- The next of the renamings puts a file where there is nothing. -/
theorem Holds.next_target (split : shorts ms = done ++ m :: later)
    (carried : carryOut (done.map (padding (Migration.maxWidth ms))) tree = .ok after) :
    ∃ name, after.Enters (padding (Migration.maxWidth ms) m).target loc name ∧
      after.get? (name :: loc) = none := by
  obtain ⟨hafter, _⟩ := h.advance split carried
  have hm : m ∈ shorts ms := by
    rw [split]
    exact List.mem_append_right done List.mem_cons_self
  have hother : m.id ∉ done.map (·.id) := by
    have hdistinct := shorts_distinct h.distinct
    rw [split, List.map_append, List.map_cons, List.nodup_append] at hdistinct
    exact fun hid => hdistinct.2.2 _ hid _ List.mem_cons_self rfl
  have hdue := (h.due_shorts hm).later hother
  rw [← Migration.map_of_paddedIn dir] at hdue
  exact ⟨_, hdue.target hafter.labelled⟩

end Start

/-- Once the first of the renamings have been carried out, the others are still needed. -/
theorem renamings_midway (listing : Listing) (h : Holds tree dir loc ms)
    (split : shorts ms = done ++ later)
    (carried : carryOut (done.map (padding (Migration.maxWidth ms))) tree = .ok after) :
    (seen (listing.sight after) dir).map renamings =
      (seen (listing.sight after) dir).map
        fun _ => later.map (padding (Migration.maxWidth ms)) := by
  obtain ⟨hafter, _⟩ := h.advance split carried
  cases hseen : seen (listing.sight after) dir with
  | error failure => rfl
  | ok found =>
      have hperm := hafter.scans.finds listing found hseen
      have hwidth : Migration.maxWidth (midway dir ms done) = Migration.maxWidth ms := by
        rw [← Heading.maxWidth_of, midway, Migration.map_of_paddedIn,
          Heading.maxWidth_paddedIn, Heading.maxWidth_of]
      change Except.ok (renamings found) = _
      rw [renamings_perm hperm hafter.distinct, renamings_eq,
        shorts_midway h.distinct h.paths split, hwidth]
      rfl

end Holds

/-! ## Nothing is overwritten -/

/-- What renamings have to be for migrations that have been found in a directory. -/
structure Harmless (tree : Tree) (loc : Location) (found : List Migration) (rs : List Renaming) :
    Prop where
  /-- There is one for each name that has too few digits, ascending by ID. -/
  listed : ∃ ms : List Migration, rs = ms.map (padding (Migration.maxWidth found)) ∧
    (ms.Pairwise fun a b => a.id < b.id) ∧
    ∀ m, m ∈ ms ↔ m ∈ found ∧ m.digits.length < Migration.maxWidth found
  /-- The digits are to be as many as those of the largest ID. -/
  width : ∀ top ∈ found, (∀ m ∈ found, m.id ≤ top.id) → Migration.maxWidth found = top.id.width
  targets : (rs.map (·.target)).Nodup
  /-- The new names belong to the directory, and it has none of them. -/
  vacant : ∀ r ∈ rs, ∃ name, tree.Enters r.target loc name ∧ name ∉ tree.names loc
  /-- When its turn comes, none of the renamings meets an entry in its way. -/
  free : ∀ done r later mid, rs = done ++ r :: later → carryOut done tree = .ok mid →
    ∃ name, mid.Enters r.target loc name ∧ mid.get? (name :: loc) = none

/-- Between two migrations only the digits in the name differ, if these were less than a width. -/
structure Levelled (width : Nat) (m m' : Migration) : Prop where
  made : Made.of m' = Made.of m
  padded : m.digits.length < width → m'.digits.length = width
  kept : width ≤ m.digits.length → m' = m

section Levelled

variable {tree after : Tree} {dir : Path} {loc : Location} {found ms : List Migration}

theorem Holds.harmless (h : Holds tree dir loc ms) : Harmless tree loc ms (renamings ms) := by
  have htarget : ∀ m ∈ shorts ms, tree.Enters (padding (Migration.maxWidth ms) m).target loc
      ((Heading.of m).padded (Migration.maxWidth ms)).entry ∧
      tree.get? (((Heading.of m).padded (Migration.maxWidth ms)).entry :: loc) = none :=
    fun m hm => (h.due_shorts hm).target h.labelled
  refine ⟨⟨shorts ms, renamings_eq ms, ?_, fun m => mem_shorts_iff⟩, fun top htop largest =>
    maxWidth_eq_of_top htop largest, ?_, ?_, ?_⟩
  · have hascending : (shorts ms).Pairwise fun a b => a.id ≤ b.id :=
      (Apply.sortById_ascending ms).filter _
    exact Apply.strict_of_ascending hascending (shorts_distinct h.distinct)
  · rw [renamings_eq, List.map_map]
    refine (List.Nodup.of_map _ (shorts_distinct h.distinct)).map_on ?_
    intro a ha b hb hsame
    obtain ⟨henters, _⟩ := htarget a ha
    obtain ⟨henters', _⟩ := htarget b hb
    have hsame : (padding (Migration.maxWidth ms) a).target =
        (padding (Migration.maxWidth ms) b).target := hsame
    rw [← hsame] at henters'
    have hclean : ∀ m ∈ shorts ms, Slug.Clean m.slug := fun m hm =>
      h.labelled.clean (h.due_shorts hm).mem
    -- A target is what is written for its ID, so equal targets are of one migration.
    have hid := (write_injective (hclean a ha) (hclean b hb) (henters.unique henters').2).1
    exact List.inj_on_of_nodup_map (shorts_distinct h.distinct) ha hb hid
  · intro r hr
    rw [renamings_eq] at hr
    obtain ⟨m, hm, rfl⟩ := List.mem_map.mp hr
    obtain ⟨henters, hfresh⟩ := htarget m hm
    refine ⟨_, henters, fun hname => ?_⟩
    obtain ⟨entry, hfound⟩ := (mem_names_iff h.labelled.proper).mp hname
    rw [hfresh] at hfound
    cases hfound
  · intro done r later mid hsplit hcarried
    rw [renamings_eq] at hsplit
    obtain ⟨done, rest, hshorts, rfl, hrest⟩ := List.map_eq_append_iff.mp hsplit
    obtain ⟨m, later, rfl, rfl, rfl⟩ := List.map_eq_cons_iff.mp hrest
    exact h.next_target hshorts hcarried

theorem Harmless.perm {rs : List Renaming} (h : Harmless tree loc ms rs) (perm : found.Perm ms) :
    Harmless tree loc found rs := by
  have hwidth := Migration.maxWidth_perm perm
  obtain ⟨⟨todo, hlist, hascending, hmem⟩, hlargest, htargets, hvacant, hfree⟩ := h
  refine ⟨⟨todo, ?_, hascending, ?_⟩, ?_, htargets, hvacant, hfree⟩
  · rw [hwidth, hlist]
  · intro m
    rw [hwidth, hmem, perm.mem_iff]
  · intro top htop largest
    rw [hwidth]
    exact hlargest top (perm.mem_iff.mp htop) fun m hm => largest m (perm.mem_iff.mpr hm)

theorem levelled_midway (distinct : (ms.map (·.id)).Nodup)
    (paths : ∀ m ∈ ms, m.path = dir.join (Text.octets m.name)) :
    List.Forall₂ (Levelled (Migration.maxWidth ms)) ms (midway dir ms (shorts ms)) := by
  rw [midway, List.forall₂_map_right_iff, List.forall₂_same]
  intro m hm
  refine ⟨Migration.made_paddedIn, ?_, ?_⟩
  · intro hshort
    have hid : m.id ∈ (shorts ms).map (·.id) :=
      List.mem_map_of_mem (mem_shorts_iff.mpr ⟨hm, hshort⟩)
    have hwidth : m.id.width ≤ Migration.maxWidth ms := by
      rw [← Heading.maxWidth_of]
      exact Heading.width_le_maxWidth (List.mem_map_of_mem (f := Heading.of) hm)
    rw [length_digits_paddedIn _ hid, Nat.max_eq_left hwidth]
  · intro hlong
    refine Migration.paddedIn_of_not_mem (paths m hm) fun hid => ?_
    obtain ⟨k, hk, hid⟩ := List.mem_map.mp hid
    obtain ⟨hk, hshort⟩ := mem_shorts_iff.mp hk
    rw [List.inj_on_of_nodup_map distinct hk hm hid] at hshort
    exact absurd hshort (Nat.not_lt.mpr hlong)

end Levelled

section Setting

variable {σ : Type} {setting : Setting σ} {listing : Listing} {site : Site σ} {dir : Path}
variable {loc : Location} {found : List Migration}

theorem run_renumber_idle (write : Bool)
    (idle : ∀ found, seen (listing.sight site.tree) dir = .ok found → renamings found = []) :
    Program.run (setting.handler listing) (renumber dir write).run site =
      ((seen (listing.sight site.tree) dir).map fun _ => [], site) := by
  rw [renumber, Task.run_bind, Setting.run_scan]
  cases hseen : seen (listing.sight site.tree) dir with
  | error failure => rfl
  | ok found =>
      cases found with
      | nil => rfl
      | cons m rest =>
          change Program.run (setting.handler listing) (do
            if write then renameEach (renamings (m :: rest))
              else Task.note (.leftNames (renamings (m :: rest)).length)
            pure (renamings (m :: rest)) : Task Failure (List Renaming)).run site = _
          rw [idle _ hseen]
          cases write <;> rfl

variable (setting listing site)

/-- Renumbering a directory of files never puts a file in the place of another. It loses nothing, and
once it has succeeded there is nothing left for it to do. -/
theorem renumber_overwrites_nothing (sound : site.tree.Sound)
    (resolves : site.tree.resolve dir = .ok loc)
    (files : ∀ x ∈ site.tree.entriesIn loc, ∃ content, x.2 = .file content)
    (scans : seen (listing.sight site.tree) dir = .ok found) :
    Harmless site.tree loc found (renamings found) ∧
    Program.run (setting.handler listing) (renumber dir false).run site =
      (.ok (renamings found), site) ∧
    ∀ needed after,
      Program.run (setting.handler listing) (renumber dir true).run site = (.ok needed, after) →
      needed = renamings found ∧ after.store = site.store ∧ site.tree.DifferIn loc after.tree ∧
      ∃ before ms, before.Perm found ∧
        List.Forall₂ (Levelled (Migration.maxWidth found)) before ms ∧
        Holds after.tree dir loc ms ∧ Scans after.tree dir ms ∧
        ∀ (setting' : Setting σ) listing' write,
          Program.run (setting'.handler listing') (renumber dir write).run after =
            ((seen (listing'.sight after.tree) dir).map fun _ => [], after) := by
  obtain ⟨ms, hms, hperm⟩ := exists_holds sound resolves files scans
  have hneeded : renamings found = renamings ms := renamings_perm hperm hms.distinct
  have hwidth := Migration.maxWidth_perm hperm
  refine ⟨?_, ?_, ?_⟩
  · rw [hneeded]
    exact hms.harmless.perm hperm
  · rw [run_renumber_false, scans]
    rfl
  · intro needed after hrun
    obtain ⟨done, later, result, after', hsplit, hrun', hprogress⟩ :=
      exists_progress setting listing site scans
    obtain ⟨hresult, rfl⟩ := Prod.mk.inj (hrun'.symm.trans hrun)
    obtain ⟨last, hstops, _⟩ := hprogress.stops
    cases hstops with
    | failed => cases hresult
    | finished =>
        have hcarried := hprogress.tree
        rw [List.append_nil] at hsplit
        rw [← hsplit, hneeded, renamings_eq] at hcarried
        have hall : shorts ms = shorts ms ++ [] := (List.append_nil _).symm
        obtain ⟨hafter, hbeside⟩ := hms.advance hall hcarried
        refine ⟨(Except.ok.inj hresult).symm, hprogress.store, hbeside, ms, _, hperm.symm, ?_,
          hafter, hafter.scans, ?_⟩
        · rw [hwidth]
          exact levelled_midway hms.distinct hms.paths
        · intro setting' listing' write
          refine run_renumber_idle write fun found' hfound' => ?_
          have hrest := renamings_midway listing' hms hall hcarried
          rw [hfound'] at hrest
          exact Except.ok.inj hrest

end Setting

/-! ## Two directories -/

theorem filled_files {names : List String} : ∀ x ∈ (filled names).entriesIn [Text.octets "m"],
    ∃ content, x.2 = .file content := by
  rintro ⟨name, entry⟩ hx
  rcases mem_filled.mp (Tree.mem_entriesIn.mp hx) with ⟨hname, _⟩ | ⟨_, _, _, hentry⟩
  · cases hname
  · exact ⟨_, hentry⟩

theorem renamings_nineAndTen :
    renamings nineAndTen = [⟨.ofText "m/9-a.sql", .ofText "m/09-a.sql"⟩] := by
  rw [renamings, Apply.sortById_of_ascending (by decide)]
  decide +kernel

/-- One of the names is padded, and then none is short. -/
theorem renumber_overwrites_nothing_uneven :
    Harmless uneven [Text.octets "m"] nineAndTen [⟨.ofText "m/9-a.sql", .ofText "m/09-a.sql"⟩] ∧
    ∃ after : Site Unit,
      Program.run (Setting.ordinary.handler .plain) (renumber (.ofText "m") true).run
        ⟨uneven, (), []⟩ = (.ok [⟨.ofText "m/9-a.sql", .ofText "m/09-a.sql"⟩], after) ∧
      after.tree = even ∧ ∀ write,
        Program.run (Setting.ordinary.handler .plain) (renumber (.ofText "m") write).run after =
          (.ok [], after) := by
  have hsound : uneven.Sound := filled_sound (by decide) (by decide)
  have hresolve : uneven.resolve (.ofText "m") = .ok [Text.octets "m"] := by decide +kernel
  have hscan : seen (Listing.plain.sight uneven) (.ofText "m") = .ok nineAndTen := by
    decide +kernel
  obtain ⟨hharmless, _, hwritten⟩ := renumber_overwrites_nothing .ordinary .plain
    ⟨uneven, (), []⟩ hsound hresolve filled_files hscan
  have hrun := run_renumber_true .ordinary .plain ⟨uneven, (), []⟩ hscan
  rw [renamings_nineAndTen] at hharmless hrun
  have hresult : (Program.run (Setting.ordinary.handler .plain)
      (renameEach [⟨.ofText "m/9-a.sql", .ofText "m/09-a.sql"⟩]).run ⟨uneven, (), []⟩).1 =
      .ok () := by decide +kernel
  have htree : (Program.run (Setting.ordinary.handler .plain)
      (renameEach [⟨.ofText "m/9-a.sql", .ofText "m/09-a.sql"⟩]).run ⟨uneven, (), []⟩).2.tree =
      even := by decide +kernel
  have heven : seen (Listing.plain.sight even) (.ofText "m") =
      .ok [⟨.ofText "m/09-a.sql", "09-a.sql", Bootstrap.placeholder, ⟨9, by decide⟩, "a", "09"⟩,
        ⟨.ofText "m/10-b.sql", "10-b.sql", Bootstrap.placeholder, ⟨10, by decide⟩, "b", "10"⟩] := by
    decide +kernel
  rw [hresult] at hrun
  obtain ⟨_, _, _, _, _, _, _, _, _, hagain⟩ := hwritten _ _ hrun
  refine ⟨hharmless, _, hrun, htree, fun write => ?_⟩
  rw [hagain, htree, heven]
  rfl

/-- Padding can make the path of a file too long to be scanned. -/
theorem renumbered_out_of_reach :
    (filled ["5-aaaa.sql", "123-b.sql"]).Sound ∧
    (∀ x ∈ (filled ["5-aaaa.sql", "123-b.sql"]).entriesIn [Text.octets "m"],
      ∃ content, x.2 = .file content) ∧
    seen (.ofTree (filled ["5-aaaa.sql", "123-b.sql"])) lengthy = .ok [fifth, later] ∧
    Program.run (atWork 0) (renumber lengthy true).run (filled ["5-aaaa.sql", "123-b.sql"]) =
      (.ok [padding 3 fifth], filled ["005-aaaa.sql", "123-b.sql"]) ∧
    ¬ ∃ found, seen (.ofTree (filled ["005-aaaa.sql", "123-b.sql"])) lengthy = .ok found :=
  ⟨filled_sound (by decide) (by decide), filled_files, seen_eq_ok.mpr lengthy_found,
    run_renumber_lengthy, fun ⟨_, hfound⟩ => lengthy_unseen hfound⟩

end Directory

end SchemaLedger
