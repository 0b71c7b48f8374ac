import Mathlib.Data.List.Forall2
import Mathlib.Data.List.Nodup
import SchemaLedger.Proofs.Apply.Sight

/-! # What a scan finds

A scan succeeds exactly if every entry is a file whose name and content make a migration and no two
of these share an ID. Then it finds these migrations. -/

namespace SchemaLedger.Directory

/-! ## Distinct IDs -/

theorem firstDuplicate_eq_none {seen ms : List Migration} :
    firstDuplicate seen ms = none ↔
      (ms.map (·.id)).Nodup ∧ ∀ m ∈ ms, ∀ earlier ∈ seen, earlier.id ≠ m.id := by
  induction ms generalizing seen with
  | nil => simp [firstDuplicate]
  | cons m rest ih =>
      rw [firstDuplicate]
      split
      · next earlier hfound =>
          have hmem := List.mem_of_find?_eq_some hfound
          have hid : earlier.id = m.id := by simpa using List.find?_some hfound
          simp only [reduceCtorEq, false_iff, not_and]
          intro _ hclear
          exact hclear m List.mem_cons_self earlier hmem hid
      · next hnone =>
          have hclear : ∀ earlier ∈ seen, earlier.id ≠ m.id := by
            simpa [List.find?_eq_none] using hnone
          rw [ih]
          simp only [List.map_cons, List.nodup_cons, List.mem_map, not_exists, not_and,
            List.mem_cons, forall_eq_or_imp]
          constructor
          · rintro ⟨hnodup, hrest⟩
            exact ⟨⟨fun other hother => Ne.symm (hrest other hother).1, hnodup⟩, hclear,
              fun other hother => (hrest other hother).2⟩
          · rintro ⟨⟨hfirst, hnodup⟩, _, hrest⟩
            exact ⟨hnodup, fun other hother => ⟨Ne.symm (hfirst other hother), hrest other hother⟩⟩

/-- The check passes exactly the lists without a shared ID, unchanged. -/
theorem distinct_eq_ok {ms found : List Migration} :
    distinct ms = .ok found ↔ found = ms ∧ (ms.map (·.id)).Nodup := by
  have hiff := @firstDuplicate_eq_none [] ms
  simp only [List.not_mem_nil, false_implies, implies_true, and_true] at hiff
  rw [distinct]
  cases hduplicate : firstDuplicate [] ms with
  | none =>
      simp only [Except.ok.injEq]
      exact ⟨fun h => ⟨h.symm, hiff.mp hduplicate⟩, fun h => h.1.symm⟩
  | some pair =>
      obtain ⟨earlier, later⟩ := pair
      simp only [reduceCtorEq, false_iff, not_and]
      intro _ hnodup
      rw [hiff.mpr hnodup] at hduplicate
      cases hduplicate

/-! ## Entries -/

/-- What is seen of an entry is a file that makes a migration. -/
structure Reads (sight : Files.Sight) (dir : Path) (entry : Name) (m : Migration) : Prop where
  heading : heading entry = .ok ⟨m.name, m.id, m.slug, m.digits⟩
  path : m.path = dir.join entry
  content : sight (.read m.path) = .ok (Text.octets m.content)

/-- What is seen of a directory is the migrations in it. -/
def Finds (sight : Files.Sight) (dir : Path) (found : List Migration) : Prop :=
  ∃ entries, sight (.list dir) = .ok entries ∧ List.Forall₂ (Reads sight dir) entries found ∧
    (found.map (·.id)).Nodup

theorem Reads.unique {sight : Files.Sight} {dir : Path} {entry : Name} {a b : Migration}
    (ha : Reads sight dir entry a) (hb : Reads sight dir entry b) : a = b := by
  have hheading := ha.heading.symm.trans hb.heading
  have hpath : a.path = b.path := ha.path.trans hb.path.symm
  have hcontent := ha.content
  rw [hpath, hb.content] at hcontent
  have htext := congrArg Text.ofOctets? (Except.ok.inj hcontent)
  rw [Text.ofOctets?_octets, Text.ofOctets?_octets] at htext
  cases a
  cases b
  cases hheading
  cases htext
  cases hpath
  rfl

theorem reads_unique {sight : Files.Sight} {dir : Path} {entries : List Name}
    {ms ms' : List Migration} (h : List.Forall₂ (Reads sight dir) entries ms)
    (h' : List.Forall₂ (Reads sight dir) entries ms') : ms = ms' := by
  have hunique : Relator.RightUnique (Reads sight dir) := fun _ _ _ => Reads.unique
  exact List.right_unique_forall₂' hunique h h'

theorem Finds.unique {sight : Files.Sight} {dir : Path} {found found' : List Migration}
    (h : Finds sight dir found) (h' : Finds sight dir found') : found = found' := by
  obtain ⟨entries, hlist, hreads, _⟩ := h
  obtain ⟨entries', hlist', hreads', _⟩ := h'
  cases hlist.symm.trans hlist'
  exact reads_unique hreads hreads'

/-! ## Scans -/

/-- In a state a request is granted, and its answers leave the state as it is. -/
def Offers {S : Type} (around : Surroundings host S) (s : S) (request : Host.Call)
    (answered : request.Answer → Prop) : Prop :=
  around.allows s request ∧
    ∀ answer after, around.answers s request answer after → answered answer ∧ after = s

/-- In a state the surroundings show files as a sight has them, or else they are faulty. -/
structure Shows {S : Type} (around : Surroundings host S) (sight : Files.Sight) (faulty : Prop)
    (s : S) : Prop where
  list : ∀ dir, Offers around s (.files (.list dir)) fun answer =>
    answer = sight (.list dir) ∨ faulty ∧ ∃ error, answer = .error error
  read : ∀ path, Offers around s (.files (.read path)) fun answer =>
    answer = sight (.read path) ∨ faulty ∧ ∃ error, answer = .error error
  note : ∀ event, Offers around s (.note event) fun _ => True

section Shows

variable {S : Type} {around : Surroundings host S} {sight : Files.Sight} {faulty : Prop} {s : S}
variable (shows : Shows around sight faulty s)

include shows

theorem meets_readText (path : Path) {ends : Except Files.IoError String → S → Prop}
    (hok : ∀ content, sight (.read path) = .ok (Text.octets content) → ends (.ok content) s)
    (herror : ∀ error, (faulty ∨ ∀ content, sight (.read path) ≠ .ok (Text.octets content)) →
      ends (.error error) s) :
    Program.Meets around (Task.readText path).run ends s := by
  rw [Task.readText, Task.meets_bind, Task.meets_files]
  obtain ⟨hallowed, hread⟩ := shows.read path
  refine ⟨hallowed, ?_⟩
  intro answer after hafter
  obtain ⟨hanswer, rfl⟩ := hread answer after hafter
  rw [Task.Then]
  cases answer with
  | error error =>
      refine herror error ?_
      rcases hanswer with hanswer | ⟨hfaulty, _⟩
      · right
        intro content hcontent
        cases hanswer.trans hcontent
      · exact .inl hfaulty
  | ok bytes =>
      have hbytes : sight (.read path) = .ok bytes := by
        rcases hanswer with hanswer | ⟨_, _, hanswer⟩
        · exact hanswer.symm
        · cases hanswer
      rw [Task.meets_ofExcept_ok, Task.meets_ofExcept, Files.decode]
      cases htext : Text.ofOctets? bytes with
      | none =>
          refine herror _ (.inr ?_)
          intro content hcontent
          rw [hbytes, Except.ok.injEq] at hcontent
          rw [hcontent, Text.ofOctets?_octets] at htext
          cases htext
      | some content =>
          refine hok content ?_
          rw [hbytes, Text.octets_of_ofOctets? htext]

theorem meets_readEntry (dir : Path) (entry : Name) {ends : Except Failure Migration → S → Prop}
    (hok : ∀ m, Reads sight dir entry m → ends (.ok m) s)
    (herror : ∀ failure, (faulty ∨ ∀ m, ¬ Reads sight dir entry m) → ends (.error failure) s) :
    Program.Meets around (readEntry dir entry).run ends s := by
  rw [readEntry]
  cases hheading : heading entry with
  | error failure =>
      refine herror failure (.inr ?_)
      intro m hm
      cases hheading.symm.trans hm.heading
  | ok h =>
      rw [Task.meets_ofExcept_ok, Task.meets_bind, Task.meets_adapt]
      refine meets_readText shows (dir.join entry) ?_ ?_
      · intro content hcontent
        refine (Task.meets_bind around (Task.note _) _ ends _).mpr ?_
        obtain ⟨hnoted, hnote⟩ := shows.note (.foundMigration h.id h.name)
        refine ⟨hnoted, ?_⟩
        intro _ after hafter
        obtain ⟨_, rfl⟩ := hnote _ after hafter
        exact hok _ ⟨hheading, rfl, hcontent⟩
      · intro error hfailed
        refine herror _ (hfailed.imp_right ?_)
        intro hnone m hm
        exact hnone m.content (hm.path ▸ hm.content)

theorem meets_readEntries (dir : Path) (entries : List Name)
    {ends : Except Failure (List Migration) → S → Prop}
    (hok : ∀ ms, List.Forall₂ (Reads sight dir) entries ms → ends (.ok ms) s)
    (herror : ∀ failure, (faulty ∨ ∀ ms, ¬ List.Forall₂ (Reads sight dir) entries ms) →
      ends (.error failure) s) :
    Program.Meets around (readEntries dir entries).run ends s := by
  induction entries generalizing ends with
  | nil => exact hok [] .nil
  | cons entry rest ih =>
      rw [readEntries, Task.meets_bind]
      refine meets_readEntry shows dir entry ?_ ?_
      · intro m hm
        rw [Task.Then, Task.meets_bind]
        refine ih ?_ ?_
        · intro ms hms
          exact hok (m :: ms) (.cons hm hms)
        · intro failure hfailed
          refine herror failure (hfailed.imp_right ?_)
          rintro hnone _ (_ | ⟨_, hms⟩)
          exact hnone _ hms
      · intro failure hfailed
        refine herror failure (hfailed.imp_right ?_)
        rintro hnone _ (_ | ⟨hm, _⟩)
        exact hnone _ hm

theorem meets_scanning (dir : Path) {ends : Except Failure (List Migration) → S → Prop}
    (hok : ∀ found, Finds sight dir found → ends (.ok found) s)
    (herror : ∀ failure, (faulty ∨ ∀ found, ¬ Finds sight dir found) → ends (.error failure) s) :
    Program.Meets around (scan dir).run ends s := by
  rw [scan, Task.meets_bind, Task.meets_files]
  obtain ⟨hallowed, hlist⟩ := shows.list dir
  refine ⟨hallowed, ?_⟩
  intro answer after hafter
  obtain ⟨hanswer, rfl⟩ := hlist answer after hafter
  rw [Task.Then]
  cases answer with
  | error error =>
      refine herror _ ?_
      rcases hanswer with hanswer | ⟨hfaulty, _⟩
      · right
        rintro found ⟨entries, hentries, _⟩
        cases hanswer.trans hentries
      · exact .inl hfaulty
  | ok entries =>
      have hentries : sight (.list dir) = .ok entries := by
        rcases hanswer with hanswer | ⟨_, _, hanswer⟩
        · exact hanswer.symm
        · cases hanswer
      rw [Task.meets_ofExcept_ok, Task.meets_bind]
      refine meets_readEntries shows dir entries ?_ ?_
      · intro ms hms
        rw [Task.Then, Task.meets_ofExcept]
        cases hdistinct : distinct ms with
        | ok found =>
            obtain ⟨rfl, hnodup⟩ := distinct_eq_ok.mp hdistinct
            exact hok found ⟨entries, hentries, hms, hnodup⟩
        | error failure =>
            refine herror failure (.inr ?_)
            rintro found ⟨entries', hentries', hreads, hnodup⟩
            cases hentries.symm.trans hentries'
            cases reads_unique hms hreads
            cases hdistinct.symm.trans (distinct_eq_ok.mpr ⟨rfl, hnodup⟩)
      · intro failure hfailed
        refine herror failure (hfailed.imp_right ?_)
        rintro hnone found ⟨entries', hentries', hreads, _⟩
        cases hentries.symm.trans hentries'
        exact hnone found hreads

end Shows

theorem shows_host {S : Type} (around : Surroundings Store.calls S) (sight : Files.Sight) (s : S) :
    Shows (around.host sight) sight False s where
  list := fun _ => ⟨trivial, fun _ _ h => ⟨.inl h.1, h.2⟩⟩
  read := fun _ => ⟨trivial, fun _ _ h => ⟨.inl h.1, h.2⟩⟩
  note := fun _ => ⟨trivial, fun _ _ h => ⟨trivial, h.2⟩⟩

/-- A scan succeeds with what is to be found, and only if there is such a thing. -/
theorem seen_eq_ok {sight : Files.Sight} {dir : Path} {found : List Migration} :
    seen sight dir = .ok found ↔ Finds sight dir found := by
  let around : Surroundings Store.calls Unit := ⟨fun _ _ => True, fun _ _ _ _ => True⟩
  let ends : Except Failure (List Migration) → Unit → Prop := fun result _ =>
    match result with
    | .ok ms => Finds sight dir ms
    | .error _ => ∀ ms, ¬ Finds sight dir ms
  have hends : ends (seen sight dir) () := by
    have hmeets : Program.Meets (around.host sight) (scan dir).run ends () := by
      refine meets_scanning (shows_host around sight ()) dir (fun _ h => h) ?_
      rintro failure (hfaulty | hnone)
      · exact hfaulty.elim
      · exact hnone
    exact (meets_scan dir ends ()).mp hmeets
  cases hseen : seen sight dir with
  | ok ms =>
      rw [hseen] at hends
      rw [Except.ok.injEq]
      constructor
      · rintro rfl
        exact hends
      · exact Finds.unique hends
  | error failure =>
      rw [hseen] at hends
      simp only [reduceCtorEq, false_iff]
      exact hends found

theorem seen_distinct {sight : Files.Sight} {dir : Path} {found : List Migration}
    (h : seen sight dir = .ok found) : (found.map (·.id)).Nodup := by
  obtain ⟨_, _, _, hnodup⟩ := seen_eq_ok.mp h
  exact hnodup

end SchemaLedger.Directory
