import SchemaLedger.Proofs.Directory.Renumbering

/-! # Renumbering that is interrupted

When a renaming fails, those before it have been carried out. What is in the directory then is the
same but for their names, so the renamings that are still needed are the others. -/

namespace SchemaLedger.Directory

open Files (Fits IoError Location Tree)

variable {σ : Type} {dir : Path} {loc : Location} {found : List Migration}

theorem made_midway (dir : Path) (found done : List Migration) :
    (midway dir found done).map Made.of = found.map Made.of := by
  rw [midway, List.map_map]
  exact List.map_congr_left fun _ _ => Migration.made_paddedIn

/-- Renumbering that stops at a renaming can be taken up again at that renaming. -/
theorem renumber_resumes (setting : Setting σ) (listing : Listing) (site : Site σ)
    (sound : site.tree.Sound) (resolves : site.tree.resolve dir = .ok loc)
    (files : ∀ x ∈ site.tree.entriesIn loc, ∃ content, x.2 = .file content)
    (scans : seen (listing.sight site.tree) dir = .ok found) :
    Program.run (setting.handler listing) (renumber dir false).run site =
      (.ok (renamings found), site) ∧
    ∃ done later result after, renamings found = done ++ later ∧
      Program.run (setting.handler listing) (renumber dir true).run site =
        (result.map fun _ => renamings found, after) ∧
      Progress site after done later result ∧ site.tree.DifferIn loc after.tree ∧
      ∃ ms, (ms.map Made.of).Perm (found.map Made.of) ∧ Holds after.tree dir loc ms ∧
        Scans after.tree dir ms ∧
        ∀ (setting' : Setting σ) listing',
          Program.run (setting'.handler listing') (renumber dir false).run after =
            ((seen (listing'.sight after.tree) dir).map fun _ => later, after) := by
  constructor
  · rw [run_renumber_false, scans]
    rfl
  · obtain ⟨ms, hms, hperm⟩ := exists_holds sound resolves files scans
    obtain ⟨done, later, result, after, hsplit, hrun, hprogress⟩ :=
      exists_progress setting listing site scans
    have hlist := hsplit
    rw [renamings_perm hperm hms.distinct, renamings_eq] at hlist
    obtain ⟨first, rest, hshorts, rfl, rfl⟩ := List.map_eq_append_iff.mp hlist
    obtain ⟨hafter, hbeside⟩ := hms.advance hshorts hprogress.tree
    refine ⟨_, _, result, after, hsplit, hrun, hprogress, hbeside, midway dir ms first, ?_, hafter,
      hafter.scans, ?_⟩
    · rw [made_midway]
      exact hperm.symm.map _
    · intro setting' listing'
      rw [run_renumber_false, renamings_midway listing' hms hshorts hprogress.tree]

/-! ## A name that is refused -/

/-- A setting where no file can be given one of the names. -/
def stubborn (refused : Path) : Setting Unit where
  now := 0
  store := Setting.ordinary.store
  files _ call tree :=
    match call with
    | .rename old new => if new = refused then (.error .notPermitted, tree) else
      tree.answer (.rename old new)
    | call => tree.answer call
  conforms := by
    intro _ call tree
    cases call with
    | rename old new =>
        dsimp only
        split
        · exact .inl (.inr ⟨.rename old new .notPermitted, rfl⟩)
        · exact .inl (.inl rfl)
    | _ => exact .inl (.inl rfl)

def smallId (n : UInt8) : Ident :=
  ⟨n.toNat, Nat.le_trans (Nat.le_of_lt n.toNat_lt) (by decide)⟩

def eightNineTen : Tree := filled ["8-a.sql", "9-b.sql", "10-c.sql"]

def eightNineTenFound : List Migration :=
  [⟨.ofText "m/8-a.sql", "8-a.sql", Bootstrap.placeholder, smallId 8, "a", "8"⟩,
    ⟨.ofText "m/9-b.sql", "9-b.sql", Bootstrap.placeholder, smallId 9, "b", "9"⟩,
    ⟨.ofText "m/10-c.sql", "10-c.sql", Bootstrap.placeholder, smallId 10, "c", "10"⟩]

/-- Of two files, the first is renamed and the second is not. -/
theorem renumber_resumes_stubborn : ∃ after : Site Unit,
    Program.run ((stubborn (.ofText "m/09-b.sql")).handler .plain) (renumber (.ofText "m") true).run
        ⟨eightNineTen, (), []⟩ =
      (.error (.movingFile ⟨.ofText "m/9-b.sql", .ofText "m/09-b.sql"⟩ .notPermitted), after) ∧
    after.tree = filled ["08-a.sql", "9-b.sql", "10-c.sql"] ∧
    Program.run (Setting.ordinary.handler .plain) (renumber (.ofText "m") false).run after =
      (.ok [⟨.ofText "m/9-b.sql", .ofText "m/09-b.sql"⟩], after) := by
  let first : Renaming := ⟨.ofText "m/8-a.sql", .ofText "m/08-a.sql"⟩
  let second : Renaming := ⟨.ofText "m/9-b.sql", .ofText "m/09-b.sql"⟩
  have hsound : eightNineTen.Sound := filled_sound (by decide) (by decide)
  have hresolve : eightNineTen.resolve (.ofText "m") = .ok [Text.octets "m"] := by decide +kernel
  have hscan : seen (Listing.plain.sight eightNineTen) (.ofText "m") = .ok eightNineTenFound := by
    decide +kernel
  have hneeded : renamings eightNineTenFound = [first, second] := by
    rw [renamings, Apply.sortById_of_ascending (by decide)]
    decide +kernel
  have hresult : (Program.run ((stubborn second.target).handler .plain)
      (renameEach [first, second]).run ⟨eightNineTen, (), []⟩).1 =
      .error (.movingFile second .notPermitted) := by decide +kernel
  have htree : (Program.run ((stubborn second.target).handler .plain)
      (renameEach [first, second]).run ⟨eightNineTen, (), []⟩).2.tree =
      filled ["08-a.sql", "9-b.sql", "10-c.sql"] := by decide +kernel
  have hseen : seen (Listing.plain.sight (filled ["08-a.sql", "9-b.sql", "10-c.sql"]))
      (.ofText "m") =
      .ok (eightNineTenFound.map (·.paddedIn (.ofText "m") 2 [⟨8, by decide⟩])) := by
    decide +kernel
  obtain ⟨_, done, later, result, after, hsplit, hrun, hprogress, _, _, _, _, _, hagain⟩ :=
    renumber_resumes (stubborn second.target) .plain ⟨eightNineTen, (), []⟩ hsound hresolve
      filled_files hscan
  have hends := (run_renumber_true (stubborn second.target) .plain ⟨eightNineTen, (), []⟩
    hscan).symm.trans hrun
  rw [hneeded] at hsplit hrun hends
  rw [hresult] at hends
  obtain ⟨hfailed, rfl⟩ := Prod.mk.inj hends
  rw [htree] at hagain
  have hlater : later = [second] := by
    rcases done with _ | ⟨r, _ | ⟨r', rest⟩⟩
    · have hsame : Except.ok eightNineTen = Except.ok _ := hprogress.tree
      rw [htree] at hsame
      exact absurd (Except.ok.inj hsame) (by decide +kernel)
    · exact (List.cons.inj hsplit).2.symm
    · obtain ⟨_, hrest⟩ := List.cons.inj (List.cons.inj hsplit).2
      obtain ⟨_, rfl⟩ := List.append_eq_nil_iff.mp hrest.symm
      obtain ⟨_, hstops, _⟩ := hprogress.stops
      cases hstops
      cases hfailed
  refine ⟨_, hrun.trans (by rw [← hfailed]; rfl), htree, ?_⟩
  rw [hagain, hseen, hlater]
  rfl

/-! ## A path that becomes too long -/

theorem entriesIn_filled (names : List String) : (filled names).entriesIn [Text.octets "m"] =
    names.map fun name => (Text.octets name, .file (Text.octets Bootstrap.placeholder)) := by
  induction names with
  | nil => rfl
  | cons name rest ih => simp [Tree.entriesIn, filled] at ih ⊢

theorem keeps_filled (names : List String) : (filled []).Keeps (filled names) := by
  have hkept : ∀ loc entry, (filled []).get? loc = some entry →
      (filled names).get? loc = some entry := by
    intro loc entry h
    by_cases hroot : loc = []
    · rw [hroot] at h ⊢
      exact h
    · cases List.mem_singleton.mp (Tree.mem_of_get? hroot h)
      simp [Tree.get?, filled]
  exact ⟨rfl, fun loc => hkept loc _, fun loc target => hkept loc _⟩

theorem holds_filled {hs : List Heading} (sound : (filled (hs.map (·.name))).Sound)
    (denotes : (filled []).Denotes dir [Text.octets "m"])
    (reads : ∀ h ∈ hs, heading h.entry = .ok h) (distinct : (hs.map (·.id)).Nodup) :
    Holds (filled (hs.map (·.name))) dir [Text.octets "m"]
      (hs.map (·.migration dir Bootstrap.placeholder)) := by
  have hentries := entriesIn_filled (hs.map (·.name))
  have hnames : (filled (hs.map (·.name))).names [Text.octets "m"] = hs.map Heading.entry := by
    rw [Tree.names_eq, hentries, List.map_map, List.map_map]
    rfl
  have hof : (hs.map (·.migration dir Bootstrap.placeholder)).map Heading.of = hs := by
    rw [List.map_map]
    exact List.map_id hs
  refine ⟨⟨sound.proper, denotes.mono (keeps_filled _), sound.fits _, ?_, ?_, ?_⟩, ?_, ?_⟩
  · intro name hname
    obtain ⟨entry, hfound⟩ := (mem_names_iff sound.proper).mp hname
    obtain ⟨content, rfl⟩ := filled_files _
      (Tree.mem_entriesIn.mpr (Tree.mem_of_get? (List.cons_ne_nil _ _) hfound))
    exact .of_file hfound
  · rw [hof]
    exact ⟨hnames, reads⟩
  · rwa [hof]
  · intro m hm
    obtain ⟨h, _, rfl⟩ := List.mem_map.mp hm
    rfl
  · rw [hentries, List.map_map, List.map_map]
    rfl

def fifthHeading : Heading := ⟨"5-aaaa.sql", smallId 5, "aaaa", "5"⟩
def sixthHeading : Heading := ⟨"6-b.sql", smallId 6, "b", "6"⟩
def hundredthHeading : Heading := ⟨"100-c.sql", smallId 100, "c", "100"⟩

def afar (hs : List Heading) : List Migration := hs.map (·.migration lengthy Bootstrap.placeholder)

theorem holds_afar (hs : List Heading) (sound : (filled (hs.map (·.name))).Sound)
    (reads : ∀ h ∈ hs, heading h.entry = .ok h) (distinct : (hs.map (·.id)).Nodup) :
    Holds (filled (hs.map (·.name))) lengthy [Text.octets "m"] (afar hs) :=
  holds_filled sound (lengthy_denotes []) reads distinct

theorem short_afar {hs : List Heading} (fits : ∀ h ∈ hs, Fits h.entry) :
    (∀ m ∈ afar hs, m.path.octets.length < Tree.pathLimit) ↔ ∀ h ∈ hs, h.entry.length ≤ 10 := by
  rw [afar, List.forall_mem_map]
  refine forall₂_congr fun h hh => ?_
  have hlimit : Tree.pathLimit = 4085 + 11 := rfl
  rw [Heading.migration, length_lengthy_join (fits h hh).plain, hlimit]
  omega

theorem renamings_afar : renamings (afar [fifthHeading, sixthHeading, hundredthHeading]) =
    (afar [fifthHeading, sixthHeading]).map (padding 3) := by
  have hwidth : Migration.maxWidth (afar [fifthHeading, sixthHeading, hundredthHeading]) = 3 := by
    decide +kernel
  rw [renamings, Apply.sortById_of_ascending (by decide), hwidth]
  rfl

/-- The first file gets a name with which its path is too long, and the second is not renamed. -/
theorem interrupted_out_of_reach :
    (filled ["5-aaaa.sql", "6-b.sql", "100-c.sql"]).Sound ∧
    (∀ x ∈ (filled ["5-aaaa.sql", "6-b.sql", "100-c.sql"]).entriesIn [Text.octets "m"],
      ∃ content, x.2 = .file content) ∧
    (∃ found, seen (.ofTree (filled ["5-aaaa.sql", "6-b.sql", "100-c.sql"])) lengthy = .ok found) ∧
    ∃ failure, ∃ after : Site Unit,
      Program.run ((stubborn (.ofText "m/006-b.sql")).handler .plain)
        (renumber lengthy true).run ⟨filled ["5-aaaa.sql", "6-b.sql", "100-c.sql"], (), []⟩ =
        (.error failure, after) ∧
      after.tree = filled ["005-aaaa.sql", "6-b.sql", "100-c.sql"] ∧
      ¬ ∃ found, seen (.ofTree after.tree) lengthy = .ok found := by
  have hsound : (filled ["5-aaaa.sql", "6-b.sql", "100-c.sql"]).Sound :=
    filled_sound (by decide) (by decide)
  have hbefore := holds_afar [fifthHeading, sixthHeading, hundredthHeading] hsound
    (by decide +kernel) (by decide)
  have hscan := seen_eq_ok.mpr (hbefore.finds ((short_afar (by decide)).mpr (by decide)))
  have hresult : (Program.run ((stubborn (.ofText "m/006-b.sql")).handler .plain)
      (renameEach ((afar [fifthHeading, sixthHeading]).map (padding 3))).run
      ⟨filled ["5-aaaa.sql", "6-b.sql", "100-c.sql"], (), []⟩).1.toOption = none := by
    decide +kernel
  have htree : (Program.run ((stubborn (.ofText "m/006-b.sql")).handler .plain)
      (renameEach ((afar [fifthHeading, sixthHeading]).map (padding 3))).run
      ⟨filled ["5-aaaa.sql", "6-b.sql", "100-c.sql"], (), []⟩).2.tree =
      filled ["005-aaaa.sql", "6-b.sql", "100-c.sql"] := by decide +kernel
  have hunseen : ¬ ∃ found, seen (.ofTree (filled ["005-aaaa.sql", "6-b.sql", "100-c.sql"]))
      lengthy = .ok found := by
    have hafter := holds_afar
      [⟨"005-aaaa.sql", ⟨5, by decide⟩, "aaaa", "005"⟩, sixthHeading, hundredthHeading]
      (filled_sound (by decide) (by decide)) (by decide +kernel) (by decide)
    have hscans := hafter.scans.succeeds .plain
    rw [Listing.sight_plain] at hscans
    exact mt hscans.mp (mt (short_afar (by decide)).mp (by decide))
  have hrun := run_renumber_true (stubborn (.ofText "m/006-b.sql")) .plain
    ⟨filled ["5-aaaa.sql", "6-b.sql", "100-c.sql"], (), []⟩
    ((Listing.sight_plain _).symm ▸ hscan)
  rw [renamings_afar] at hrun
  refine ⟨hsound, filled_files, ⟨_, hscan⟩, ?_⟩
  cases hfailed : (Program.run ((stubborn (.ofText "m/006-b.sql")).handler .plain)
      (renameEach ((afar [fifthHeading, sixthHeading]).map (padding 3))).run
      ⟨filled ["5-aaaa.sql", "6-b.sql", "100-c.sql"], (), []⟩).1 with
  | ok value =>
      rw [hfailed] at hresult
      cases hresult
  | error failure =>
      rw [hfailed] at hrun
      exact ⟨failure, _, hrun, htree, htree ▸ hunseen⟩

end SchemaLedger.Directory
