import SchemaLedger.Proofs.Directory.Padding
import SchemaLedger.Proofs.NameGrammar

/-! # Which directories can be scanned

The content of a directory for which a scan succeeds, said without the scan: which names its
entries have and what is in them. A failure about IDs tells of entries that are to blame. -/

namespace SchemaLedger.Directory

open FileName (Spells)

/-! ## Headings -/

theorem heading_of_spells {name : String} {parts : FileName.Parts} (h : Spells name parts) :
    heading (Text.octets name) =
      if hle : Decimal.value parts.digits.toList ≤ Decimal.maxInt64 then
        .ok ⟨name, ⟨_, hle⟩, parts.slug, parts.digits⟩
      else .error (.ident (.notInteger parts.digits .tooLarge)) := by
  rw [heading, Text.ofOctets?_octets]
  dsimp only
  rw [FileName.read?_of_spells h]
  dsimp only
  rw [Ident.parse_of_numeric h.digits_ne_nil h.numeric]
  split
  · next error herror =>
      split at herror
      · cases herror
      · next hlarge => rw [dif_neg hlarge, ← Except.error.inj herror]
  · next id hid =>
      split at hid
      · next hle => rw [dif_pos hle, ← Except.ok.inj hid]
      · cases hid

/-- An entry whose name does not fit has no heading. -/
theorem spells_or_invalid (entry : Name) :
    (∃ name parts, entry = Text.octets name ∧ Spells name parts) ∨
      ∃ shown, heading entry = .error (.invalidName shown) := by
  rw [heading]
  cases htext : Text.ofOctets? entry with
  | none => exact .inr ⟨_, rfl⟩
  | some name =>
      dsimp only
      cases hread : FileName.read? name with
      | none => exact .inr ⟨_, rfl⟩
      | some parts =>
          exact .inl ⟨name, parts, (Text.octets_of_ofOctets? htext).symm, FileName.spells_of_read? hread⟩

/-- An entry has a heading exactly if its name fits and its digits are an ID. -/
theorem heading_eq_ok_iff {entry : Name} {h : Heading} : heading entry = .ok h ↔
    entry = Text.octets h.name ∧ Spells h.name ⟨h.digits, h.slug⟩ ∧
      h.id.value = Decimal.value h.digits.toList := by
  constructor
  · intro hok
    rcases spells_or_invalid entry with ⟨name, parts, rfl, hspells⟩ | ⟨_, herror⟩
    · rw [heading_of_spells hspells] at hok
      split at hok
      · cases hok
        exact ⟨rfl, hspells, rfl⟩
      · cases hok
    · cases herror.symm.trans hok
  · rintro ⟨rfl, hspells, hid⟩
    have hle : Decimal.value h.digits.toList ≤ Decimal.maxInt64 := hid ▸ h.id.value_le
    have hsame : (⟨_, hle⟩ : Ident) = h.id := Ident.ext hid.symm
    rw [heading_of_spells hspells, dif_pos hle, hsame]

/-- An entry is refused for a name that does not fit, or since the ID that it spells is too large. -/
theorem heading_eq_error {entry : Name} {failure : Failure} (h : heading entry = .error failure) :
    (∃ shown, failure = .invalidName shown) ∨
      ∃ name parts, entry = Text.octets name ∧ Spells name parts ∧
        Decimal.maxInt64 < Decimal.value parts.digits.toList ∧
        failure = .ident (.notInteger parts.digits .tooLarge) := by
  rcases spells_or_invalid entry with ⟨name, parts, rfl, hspells⟩ | ⟨shown, herror⟩
  · rw [heading_of_spells hspells] at h
    split at h
    · cases h
    · next hlarge =>
        cases h
        exact .inr ⟨name, parts, rfl, hspells, Nat.lt_of_not_le hlarge, rfl⟩
  · exact .inl ⟨shown, Except.error.inj (h.symm.trans herror)⟩

/-! ## Entries -/

structure Records (sight : Files.Sight) (dir : Path) (entry : Name) (m : Migration) : Prop where
  name : entry = Text.octets m.name
  spells : Spells m.name ⟨m.digits, m.slug⟩
  id : m.id.value = Decimal.value m.digits.toList
  path : m.path = dir.join entry
  content : sight (.read (dir.join entry)) = .ok (Text.octets m.content)

variable {sight : Files.Sight} {dir : Path}

theorem reads_iff_records {entry : Name} {m : Migration} :
    Reads sight dir entry m ↔ Records sight dir entry m := by
  constructor
  · intro h
    obtain ⟨hname, hspells, hid⟩ := heading_eq_ok_iff.mp h.heading
    exact ⟨hname, hspells, hid, h.path, h.path ▸ h.content⟩
  · intro h
    exact ⟨heading_eq_ok_iff.mpr ⟨h.name, h.spells, h.id⟩, h.path, h.path ▸ h.content⟩

/-! ## Two migrations of one ID -/

theorem firstDuplicate_eq_some {seen ms : List Migration} {earlier later : Migration}
    (h : firstDuplicate seen ms = some (earlier, later)) :
    earlier.id = later.id ∧ [earlier, later].Sublist (seen.reverse ++ ms) := by
  induction ms generalizing seen with
  | nil => cases h
  | cons m rest ih =>
      rw [firstDuplicate] at h
      split at h
      · next found hfound =>
          cases h
          have hmem : earlier ∈ seen.reverse := List.mem_reverse.mpr (List.mem_of_find?_eq_some hfound)
          have hid := List.find?_some hfound
          refine ⟨by simpa using hid, ?_⟩
          exact (List.singleton_sublist.mpr hmem).append
            (List.singleton_sublist.mpr List.mem_cons_self)
      · obtain ⟨hid, hsublist⟩ := ih h
        rw [List.reverse_cons, List.append_assoc, List.singleton_append] at hsublist
        exact ⟨hid, hsublist⟩

/-- A report on a shared ID names two migrations that have it, in the order in which they stand. -/
theorem distinct_eq_error {ms : List Migration} {failure : Failure}
    (h : distinct ms = .error failure) : ∃ earlier later, [earlier, later].Sublist ms ∧
      earlier.id = later.id ∧ failure = .duplicateId later.id earlier.name later.name := by
  rw [distinct] at h
  split at h
  · next earlier later hfound =>
      cases h
      obtain ⟨hid, hsublist⟩ := firstDuplicate_eq_some hfound
      rw [List.reverse_nil, List.nil_append] at hsublist
      exact ⟨earlier, later, hsublist, hid, rfl⟩
  · cases h

/-! ## Why scans fail -/

/-- What a scan blames is an operation on files, the name of an entry, or two entries of one ID. -/
inductive Blames (sight : Files.Sight) (dir : Path) : Failure → Prop
  | files (context : String) (error : Files.IoError) : Blames sight dir (.files context error)
  | entry {entries : List Name} {entry : Name} {failure : Failure}
      (listed : sight (.list dir) = .ok entries) (mem : entry ∈ entries)
      (refused : heading entry = .error failure) : Blames sight dir failure
  | shared {entries : List Name} {ms : List Migration} {failure : Failure}
      (listed : sight (.list dir) = .ok entries)
      (reads : List.Forall₂ (Reads sight dir) entries ms)
      (refused : distinct ms = .error failure) : Blames sight dir failure

theorem eq_octets_of_decode {answer : Except Files.IoError Octets} {content : String}
    (h : answer.bind Files.decode = .ok content) : answer = .ok (Text.octets content) := by
  cases answer with
  | error error => cases h
  | ok bytes =>
      change Files.decode bytes = .ok content at h
      rw [Files.decode] at h
      split at h
      · next text htext =>
          cases h
          rw [Text.octets_of_ofOctets? htext]
      · cases h

theorem run_readText (path : Path) : Program.run sight.handler (Task.readText path).run () =
    ((sight (.read path)).bind Files.decode, ()) := by
  have hanswer : (sight.handler (.files (.read path)) ()).1 = sight (.read path) := rfl
  rw [Task.readText, Task.run_bind, Task.run_files, hanswer]
  dsimp only
  rw [Task.run_bind, Task.run_ofExcept]
  cases sight (.read path) with
  | error error => rfl
  | ok bytes =>
      refine (Task.run_ofExcept sight.handler () id (Files.decode bytes)).trans ?_
      cases hdecode : Files.decode bytes <;> simp [Except.bind, Except.mapError, hdecode]

/-- An entry is read, or it is refused for its name, or its file cannot be read. -/
theorem run_readEntry (sight : Files.Sight) (dir : Path) (entry : Name) :
    (∃ m, Program.run sight.handler (readEntry dir entry).run () = (.ok m, ()) ∧
      Reads sight dir entry m) ∨
    ∃ failure, Program.run sight.handler (readEntry dir entry).run () = (.error failure, ()) ∧
      ((∃ context error, failure = .files context error) ∨ heading entry = .error failure) := by
  have hread : Program.run sight.handler
      ((Task.readText (dir.join entry)).adapt (Failure.reading (dir.join entry))).run () =
        (((sight (.read (dir.join entry))).bind Files.decode).mapError
          (Failure.reading (dir.join entry)), ()) := by
    refine (Program.run_bind sight.handler (Task.readText (dir.join entry)).run _ ()).trans ?_
    rw [run_readText]
    rfl
  rw [readEntry, Task.run_bind, Task.run_ofExcept]
  cases hheading : heading entry with
  | error failure => exact .inr ⟨failure, rfl, .inr rfl⟩
  | ok h =>
      dsimp only [Except.mapError]
      rw [Task.run_bind, hread]
      cases hcontent : (sight (.read (dir.join entry))).bind Files.decode with
      | error error => exact .inr ⟨_, rfl, .inl ⟨_, error, rfl⟩⟩
      | ok content => exact .inl ⟨_, rfl, hheading, rfl, eq_octets_of_decode hcontent⟩

theorem run_readEntries (sight : Files.Sight) (dir : Path) (entries : List Name) :
    (∃ ms, Program.run sight.handler (readEntries dir entries).run () = (.ok ms, ()) ∧
      List.Forall₂ (Reads sight dir) entries ms) ∨
    ∃ failure, Program.run sight.handler (readEntries dir entries).run () = (.error failure, ()) ∧
      ((∃ context error, failure = .files context error) ∨
        ∃ entry ∈ entries, heading entry = .error failure) := by
  induction entries with
  | nil => exact .inl ⟨[], rfl, .nil⟩
  | cons entry rest ih =>
      rw [readEntries, Task.run_bind]
      rcases run_readEntry sight dir entry with ⟨m, hrun, hm⟩ | ⟨failure, hrun, hbad⟩
      · rw [hrun]
        dsimp only
        rw [Task.run_bind]
        rcases ih with ⟨ms, hrest, hms⟩ | ⟨failure, hrest, hbad⟩
        · rw [hrest]
          exact .inl ⟨m :: ms, rfl, .cons hm hms⟩
        · rw [hrest]
          refine .inr ⟨failure, rfl, hbad.imp_right ?_⟩
          rintro ⟨other, hother, hheading⟩
          exact ⟨other, List.mem_cons_of_mem _ hother, hheading⟩
      · rw [hrun]
        refine .inr ⟨failure, rfl, hbad.imp_right fun hheading => ?_⟩
        exact ⟨entry, List.mem_cons_self, hheading⟩

theorem blames_of_seen {failure : Failure} (h : seen sight dir = .error failure) :
    Blames sight dir failure := by
  have hanswer : (sight.handler (.files (.list dir)) ()).1 = sight (.list dir) := rfl
  rw [seen, scan, Task.run_bind, Task.run_files, hanswer] at h
  dsimp only at h
  rw [Task.run_bind, Task.run_ofExcept] at h
  cases hlist : sight (.list dir) with
  | error error =>
      rw [hlist] at h
      cases h
      exact .files _ error
  | ok entries =>
      rw [hlist] at h
      dsimp only [Except.mapError] at h
      rw [Task.run_bind] at h
      rcases run_readEntries sight dir entries with ⟨ms, hrun, hms⟩ | ⟨_, hrun, hbad⟩
      · rw [hrun] at h
        dsimp only at h
        rw [Task.run_ofExcept] at h
        cases hdistinct : distinct ms with
        | ok found =>
            rw [hdistinct] at h
            cases h
        | error _ =>
            rw [hdistinct] at h
            cases h
            exact .shared hlist hms hdistinct
      · rw [hrun] at h
        cases h
        rcases hbad with ⟨context, error, rfl⟩ | ⟨entry, hmem, hheading⟩
        · exact .files context error
        · exact .entry hlist hmem hheading

def OfScan : Failure → Prop
  | .ident _ | .invalidName _ | .duplicateId .. | .files .. => True
  | .ledgerUnavailable _ | .claimConflict .. | .applyFailure .. => False

theorem ofScan_of_seen {failure : Failure} (h : seen sight dir = .error failure) :
    OfScan failure := by
  cases blames_of_seen h with
  | files => trivial
  | entry listed mem refused =>
      rcases heading_eq_error refused with ⟨_, rfl⟩ | ⟨_, _, _, _, _, rfl⟩ <;> trivial
  | shared listed reads refused =>
      obtain ⟨_, _, _, _, rfl⟩ := distinct_eq_error refused
      trivial

/-! ## Valid directories -/

/-- Every entry is a text file whose name fits and spells an ID, and no two spell the same. -/
structure Valid (sight : Files.Sight) (dir : Path) (entries : List Name) : Prop where
  named : ∀ entry ∈ entries, ∃ name parts, entry = Text.octets name ∧ Spells name parts ∧
    Decimal.value parts.digits.toList ≤ 2 ^ 63 - 1
  readable : ∀ entry ∈ entries, ∃ content, sight (.read (dir.join entry)) = .ok (Text.octets content)
  apart : ∀ name parts name' parts', Text.octets name ∈ entries → Text.octets name' ∈ entries →
    Spells name parts → Spells name' parts' →
    Decimal.value parts.digits.toList = Decimal.value parts'.digits.toList → name = name'

theorem exists_readings {entries : List Name}
    (h : ∀ entry ∈ entries, ∃ m, Reads sight dir entry m) :
    ∃ ms, List.Forall₂ (Reads sight dir) entries ms := by
  induction entries with
  | nil => exact ⟨[], .nil⟩
  | cons entry rest ih =>
      obtain ⟨m, hm⟩ := h entry List.mem_cons_self
      obtain ⟨ms, hms⟩ := ih fun other hother => h other (List.mem_cons_of_mem _ hother)
      exact ⟨m :: ms, .cons hm hms⟩

theorem names_of_readings {entries : List Name} {ms : List Migration}
    (h : List.Forall₂ (Reads sight dir) entries ms) :
    entries = (ms.map (·.name)).map Text.octets := by
  induction h with
  | nil => rfl
  | cons hm _ ih =>
      rw [List.map_cons, List.map_cons, ← ih, (reads_iff_records.mp hm).name]

theorem Valid.exists_reading {entries : List Name} (h : Valid sight dir entries) {entry : Name}
    (mem : entry ∈ entries) : ∃ m, Reads sight dir entry m := by
  obtain ⟨name, parts, hname, hspells, hle⟩ := h.named entry mem
  obtain ⟨content, hcontent⟩ := h.readable entry mem
  have hrecords : Records sight dir entry
      ⟨dir.join entry, name, content, ⟨_, hle⟩, parts.slug, parts.digits⟩ :=
    ⟨hname, hspells, rfl, rfl, hcontent⟩
  exact ⟨_, reads_iff_records.mpr hrecords⟩

theorem Valid.distinct {entries : List Name} {ms : List Migration} (h : Valid sight dir entries)
    (nodup : entries.Nodup) (reads : List.Forall₂ (Reads sight dir) entries ms) :
    (ms.map (·.id)).Nodup := by
  have hnames := names_of_readings reads
  rw [hnames] at nodup
  refine List.Nodup.map_on ?_ (List.Nodup.of_map _ (List.Nodup.of_map _ nodup))
  intro a ha b hb hid
  obtain ⟨entry, hentry, hreads⟩ := exists_related reads ha
  obtain ⟨entry', hentry', hreads'⟩ := exists_related reads hb
  have hrecords := reads_iff_records.mp hreads
  have hrecords' := reads_iff_records.mp hreads'
  have hvalue : Decimal.value a.digits.toList = Decimal.value b.digits.toList := by
    rw [← hrecords.id, ← hrecords'.id, hid]
  have hname : a.name = b.name :=
    h.apart _ _ _ _ (hrecords.name ▸ hentry) (hrecords'.name ▸ hentry') hrecords.spells
      hrecords'.spells hvalue
  have hsame : entry = entry' := by rw [hrecords.name, hrecords'.name, hname]
  exact (hsame ▸ hreads).unique hreads'

theorem valid_of_readings {entries : List Name} {ms : List Migration}
    (reads : List.Forall₂ (Reads sight dir) entries ms) (distinct : (ms.map (·.id)).Nodup) :
    Valid sight dir entries where
  named := by
    intro entry hentry
    obtain ⟨m, _, hreads⟩ := exists_related reads.flip hentry
    have hrecords := reads_iff_records.mp hreads
    exact ⟨m.name, ⟨m.digits, m.slug⟩, hrecords.name, hrecords.spells, hrecords.id ▸ m.id.value_le⟩
  readable := by
    intro entry hentry
    obtain ⟨m, _, hreads⟩ := exists_related reads.flip hentry
    exact ⟨m.content, (reads_iff_records.mp hreads).content⟩
  apart := by
    intro name parts name' parts' hentry hentry' hspells hspells' hvalue
    obtain ⟨m, hm, hreads⟩ := exists_related reads.flip hentry
    obtain ⟨m', hm', hreads'⟩ := exists_related reads.flip hentry'
    have hrecords := reads_iff_records.mp hreads
    have hrecords' := reads_iff_records.mp hreads'
    have hname : name = m.name := Text.octets_injective hrecords.name
    have hname' : name' = m'.name := Text.octets_injective hrecords'.name
    subst hname hname'
    have hparts := hspells.unique hrecords.spells
    have hparts' := hspells'.unique hrecords'.spells
    subst hparts hparts'
    have hid : m.id = m'.id := Ident.ext (by rw [hrecords.id, hrecords'.id]; exact hvalue)
    rw [List.inj_on_of_nodup_map distinct hm hm' hid]

/-! ## Scans -/

section Scans

variable {entries : List Name} (listed : sight (.list dir) = .ok entries)

include listed

theorem readings_of_seen {found : List Migration} (h : seen sight dir = .ok found) :
    List.Forall₂ (Reads sight dir) entries found := by
  obtain ⟨entries', hlisted, hreads, _⟩ := seen_eq_ok.mp h
  cases listed.symm.trans hlisted
  exact hreads

theorem seen_iff_valid (nodup : entries.Nodup) :
    (∃ found, seen sight dir = .ok found) ↔ Valid sight dir entries := by
  constructor
  · rintro ⟨found, hfound⟩
    exact valid_of_readings (readings_of_seen listed hfound) (seen_distinct hfound)
  · intro h
    obtain ⟨ms, hreads⟩ := exists_readings fun entry hentry => h.exists_reading hentry
    exact ⟨ms, seen_eq_ok.mpr ⟨entries, listed, hreads, h.distinct nodup hreads⟩⟩

theorem seen_duplicate (nodup : entries.Nodup) {id : Ident} {first second : String}
    (h : seen sight dir = .error (.duplicateId id first second)) :
    first ≠ second ∧ [Text.octets first, Text.octets second].Sublist entries ∧
      Text.octets first ∈ entries ∧ Text.octets second ∈ entries ∧
      ∃ parts parts', Spells first parts ∧ Spells second parts' ∧
        Decimal.value parts.digits.toList = id.value ∧
        Decimal.value parts'.digits.toList = id.value := by
  generalize hfailure : Failure.duplicateId id first second = failure at h
  cases blames_of_seen h with
  | files context error => cases hfailure
  | entry _ _ refused =>
      -- A name by itself is never said to share its ID.
      rcases heading_eq_error refused with ⟨_, hinvalid⟩ | ⟨_, _, _, _, _, hident⟩
      · cases hfailure.trans hinvalid
      · cases hfailure.trans hident
  | @shared entries' ms _ listed' reads refused =>
      cases listed.symm.trans listed'
      obtain ⟨earlier, later, hsublist, hid, hshared⟩ := distinct_eq_error refused
      cases hfailure.trans hshared
      have hlisted : [Text.octets earlier.name, Text.octets later.name].Sublist entries := by
        rw [names_of_readings reads]
        exact (hsublist.map (·.name)).map Text.octets
      have hapart : earlier.name ≠ later.name := by
        intro hsame
        have hpair := nodup.sublist hlisted
        rw [hsame] at hpair
        simp at hpair
      obtain ⟨_, _, hreads⟩ := exists_related reads (hsublist.subset List.mem_cons_self)
      obtain ⟨_, _, hreads'⟩ := exists_related reads (hsublist.subset (List.mem_cons_of_mem _
        List.mem_cons_self))
      have hrecords := reads_iff_records.mp hreads
      have hrecords' := reads_iff_records.mp hreads'
      exact ⟨hapart, hlisted, hlisted.subset List.mem_cons_self,
        hlisted.subset (List.mem_cons_of_mem _ List.mem_cons_self), _, _, hrecords.spells,
        hrecords'.spells, hid ▸ hrecords.id.symm, hrecords'.id.symm⟩

end Scans

theorem seen_ident {error : IdentError} (h : seen sight dir = .error (.ident error)) :
    ∃ entries name parts, sight (.list dir) = .ok entries ∧ Text.octets name ∈ entries ∧
      Spells name parts ∧ 2 ^ 63 - 1 < Decimal.value parts.digits.toList ∧
      error = .notInteger parts.digits .tooLarge := by
  generalize hfailure : Failure.ident error = failure at h
  cases blames_of_seen h with
  | files context error => cases hfailure
  | entry listed mem refused =>
      rcases heading_eq_error refused with ⟨_, hinvalid⟩ | ⟨_, _, rfl, hspells, hlarge, hident⟩
      · cases hfailure.trans hinvalid
      · cases hfailure.trans hident
        exact ⟨_, _, _, listed, mem, hspells, hlarge, rfl⟩
  | shared _ _ refused =>
      obtain ⟨_, _, _, _, hshared⟩ := distinct_eq_error refused
      cases hfailure.trans hshared

/-- A scan of a directory succeeds exactly if its content is valid, and it then records each entry
once. A shared ID is reported with two entries that have it, in the order in which they are listed.
Of the ID of an entry it can only be said that it is too large, never that it is negative. -/
theorem scan_accepts_valid (sight : Files.Sight) (dir : Path) :
    (∀ entries, sight (.list dir) = .ok entries → entries.Nodup →
      ((∃ found, seen sight dir = .ok found) ↔ Valid sight dir entries) ∧
      (∀ found, seen sight dir = .ok found → List.Forall₂ (Records sight dir) entries found) ∧
      ∀ id first second, seen sight dir = .error (.duplicateId id first second) →
        first ≠ second ∧ [Text.octets first, Text.octets second].Sublist entries ∧
        Text.octets first ∈ entries ∧ Text.octets second ∈ entries ∧
        ∃ parts parts', Spells first parts ∧ Spells second parts' ∧
          Decimal.value parts.digits.toList = id.value ∧
          Decimal.value parts'.digits.toList = id.value) ∧
    (∀ value, seen sight dir ≠ .error (.ident (.negative value))) ∧
    ∀ error, seen sight dir = .error (.ident error) →
      ∃ entries name parts, sight (.list dir) = .ok entries ∧ Text.octets name ∈ entries ∧
        Spells name parts ∧ 2 ^ 63 - 1 < Decimal.value parts.digits.toList ∧
        error = .notInteger parts.digits .tooLarge := by
  refine ⟨?_, ?_, fun _ => seen_ident⟩
  · intro entries listed nodup
    refine ⟨seen_iff_valid listed nodup, fun found hfound => ?_,
      fun _ _ _ => seen_duplicate listed nodup⟩
    exact (readings_of_seen listed hfound).imp fun _ _ => reads_iff_records.mp
  · intro value h
    obtain ⟨_, _, _, _, _, _, _, herror⟩ := seen_ident h
    cases herror

/-- A directory that is valid, one where two names spell the same ID, and one with an ID that is
too large by one. -/
theorem scan_accepts_valid_uneven :
    Valid (.ofTree uneven) (.ofText "m") [Text.octets "9-a.sql", Text.octets "10-b.sql"] ∧
    List.Forall₂ (Records (.ofTree uneven) (.ofText "m"))
      [Text.octets "9-a.sql", Text.octets "10-b.sql"] nineAndTen ∧
    (seen (.ofTree (filled ["1-a.sql", "01-b.sql"])) (.ofText "m") =
        .error (.duplicateId ⟨1, by decide⟩ "1-a.sql" "01-b.sql") ∧
      ¬ Valid (.ofTree (filled ["1-a.sql", "01-b.sql"])) (.ofText "m")
        [Text.octets "1-a.sql", Text.octets "01-b.sql"] ∧ "1-a.sql" ≠ "01-b.sql") ∧
    seen (.ofTree (filled ["9223372036854775808-a.sql"])) (.ofText "m") =
        .error (.ident (.notInteger "9223372036854775808" .tooLarge)) ∧
      ∃ name parts, Spells name parts ∧ 2 ^ 63 - 1 < Decimal.value parts.digits.toList := by
  have hseen : seen (.ofTree uneven) (.ofText "m") = .ok nineAndTen := by decide +kernel
  have hshared : seen (.ofTree (filled ["1-a.sql", "01-b.sql"])) (.ofText "m") =
      .error (.duplicateId ⟨1, by decide⟩ "1-a.sql" "01-b.sql") := by decide +kernel
  have hlarge : seen (.ofTree (filled ["9223372036854775808-a.sql"])) (.ofText "m") =
      .error (.ident (.notInteger "9223372036854775808" .tooLarge)) := by decide +kernel
  obtain ⟨hvalid, hrecords, _⟩ := (scan_accepts_valid (.ofTree uneven) (.ofText "m")).1
    [Text.octets "9-a.sql", Text.octets "10-b.sql"] (by decide +kernel) (by decide)
  obtain ⟨hiff, _, hblamed⟩ := (scan_accepts_valid (.ofTree (filled ["1-a.sql", "01-b.sql"]))
    (.ofText "m")).1 [Text.octets "1-a.sql", Text.octets "01-b.sql"] (by decide +kernel) (by decide)
  obtain ⟨_, name, parts, _, _, hspells, hvalue, _⟩ :=
    (scan_accepts_valid (.ofTree (filled ["9223372036854775808-a.sql"])) (.ofText "m")).2.2 _ hlarge
  refine ⟨hvalid.mp ⟨_, hseen⟩, hrecords _ hseen, ⟨hshared, ?_, (hblamed _ _ _ hshared).1⟩, hlarge,
    name, parts, hspells, hvalue⟩
  intro h
  obtain ⟨found, hfound⟩ := hiff.mpr h
  cases hshared.symm.trans hfound

end SchemaLedger.Directory
