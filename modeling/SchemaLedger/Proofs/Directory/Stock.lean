import SchemaLedger.Proofs.Directory.Scan
import SchemaLedger.Proofs.FileName
import SchemaLedger.Proofs.Files.Entry

/-! # The stock of a directory

The files of a directory that is only added to by creating migrations and only changed by padding
their names: one for each migration created, in the order of creation. -/

namespace SchemaLedger.Directory

open Files (Entry Fits Location Tree)

structure Made where
  id : Ident
  slug : String
  content : String
  deriving DecidableEq, Repr

/-- What a migration that was found had been created as. -/
def Made.of (m : Migration) : Made := ⟨m.id, m.slug, m.content⟩

/-- The file of a migration, whatever the width to which its ID is padded. -/
def Made.Filed (m : Made) (file : Name × Octets) : Prop :=
  ∃ width, file = (Text.octets (FileName.write width m.id m.slug), Text.octets m.content)

def filesIn (tree : Tree) (loc : Location) : List (Name × Octets) :=
  (tree.entriesIn loc).filterMap fun x =>
    match x.2 with
    | .file content => some (x.1, content)
    | _ => none

/-- A directory holds one file for each migration created, and besides at most directories. If it
is to be undivided, there are none of these either. -/
structure Stocked (undivided : Prop) (tree : Tree) (dir : Path) (loc : Location)
    (made : List Made) : Prop where
  proper : tree.Proper
  denotes : tree.Denotes dir loc
  files : List.Forall₂ Made.Filed made (filesIn tree loc)
  fits : ∀ x ∈ tree.entriesIn loc, Fits x.1
  others : ∀ x ∈ tree.entriesIn loc, x.2 = .directory ∨ ∃ content, x.2 = .file content
  whole : undivided → ∀ x ∈ tree.entriesIn loc, x.2 ≠ .directory
  distinct : (made.map (·.id)).Nodup
  clean : ∀ m ∈ made, Slug.Clean m.slug

/-! ## Files -/

variable {tree tree' : Tree} {dir : Path} {loc : Location} {made : List Made} {undivided : Prop}

theorem mem_filesIn {name : Name} {content : Octets} :
    (name, content) ∈ filesIn tree loc ↔ (name, .file content) ∈ tree.entriesIn loc := by
  rw [filesIn, List.mem_filterMap]
  constructor
  · rintro ⟨⟨found, entry⟩, hmem, heq⟩
    cases entry with
    | file bytes =>
        cases heq
        exact hmem
    | directory => cases heq
    | link target => cases heq
  · intro hmem
    exact ⟨_, hmem, rfl⟩

theorem filesIn_add (tree : Tree) (loc : Location) (name : Name) (content : Octets) :
    filesIn (tree.add (name :: loc) (.file content)) loc =
      filesIn tree loc ++ [(name, content)] := by
  rw [filesIn, Tree.entriesIn_add, if_pos rfl, List.filterMap_append]
  rfl

theorem filesIn_carry (tree : Tree) (loc : Location) (oldName newName : Name) :
    filesIn (tree.carry (oldName :: loc) (newName :: loc)) loc =
      (filesIn tree loc).map fun file => if file.1 = oldName then (newName, file.2) else file := by
  rw [filesIn, filesIn, Tree.entriesIn_carry, List.filterMap_map, List.map_filterMap]
  congr 1
  funext ⟨name, entry⟩
  cases entry <;> by_cases hname : name = oldName <;> simp [hname]

theorem list_of_denotes (denotes : tree.Denotes dir loc) : tree.list dir = .ok (tree.names loc) := by
  obtain ⟨hresolve, hdir⟩ := Tree.denotes_iff.mp denotes
  rw [Tree.list, hresolve]
  exact if_pos hdir

theorem denotes_of_list {names : List Name} (h : tree.list dir = .ok names) :
    ∃ loc, tree.Denotes dir loc ∧ names = tree.names loc := by
  rw [Tree.list] at h
  cases hresolve : tree.resolve dir with
  | error error =>
      rw [hresolve] at h
      cases h
  | ok loc =>
      by_cases hdir : tree.isDirectory loc = true
      · have hdenotes := Tree.denotes_iff.mpr ⟨hresolve, hdir⟩
        exact ⟨loc, hdenotes, Except.ok.inj (h.symm.trans (list_of_denotes hdenotes))⟩
      · simp [hresolve, hdir, bind, Except.bind] at h

theorem names_of_finds (denotes : tree.Denotes dir loc) {found : List Migration}
    (finds : Finds (.ofTree tree) dir found) :
    List.Forall₂ (Reads (.ofTree tree) dir) (tree.names loc) found := by
  obtain ⟨entries, hlist, hreads, _⟩ := finds
  have hlist : tree.list dir = .ok entries := hlist
  rw [list_of_denotes denotes] at hlist
  rwa [Except.ok.inj hlist]

/-- The names of files say which migrations they are of. -/
theorem write_injective {width width' : Nat} {id id' : Ident} {slug slug' : String}
    (clean : Slug.Clean slug) (clean' : Slug.Clean slug')
    (h : Text.octets (FileName.write width id slug) =
      Text.octets (FileName.write width' id' slug')) : id = id' ∧ slug = slug' := by
  have hheading := heading_write width id clean
  rw [h, heading_write width' id' clean', Except.ok.injEq, Heading.mk.injEq] at hheading
  exact ⟨hheading.2.1.symm, hheading.2.2.1.symm⟩

theorem made_of_reads {sight : Files.Sight} (sees : ∀ path, sight (.read path) = tree.read path)
    (proper : tree.Proper) (denotes : tree.Denotes dir loc) {k : Made} (clean : Slug.Clean k.slug)
    {name : Name} {content : Octets} (filed : k.Filed (name, content))
    (hx : (name, .file content) ∈ tree.entriesIn loc) {m : Migration}
    (reads : Reads sight dir name m) :
    Made.of m = k ∧ Text.octets m.name = name ∧
      ∃ width, m.name = FileName.write width m.id m.slug := by
  obtain ⟨width, hfile⟩ := filed
  obtain ⟨rfl, rfl⟩ := Prod.mk.inj hfile
  have hheading := reads.heading
  rw [heading_write width k.id clean, Except.ok.injEq, Heading.mk.injEq] at hheading
  obtain ⟨hname, hid, hslug, _⟩ := hheading
  have henters := denotes.leads.enters (FileName.plain_write width k.id clean)
  have hcontent : m.content = k.content := by
    have hread : tree.read (dir.join _) = .ok (Text.octets m.content) :=
      reads.path ▸ (sees m.path).symm.trans reads.content
    have hfound := proper.get?_of_mem (Tree.mem_entriesIn.mp hx)
    exact Text.octets_injective (Tree.eq_of_read_file henters hfound hread).1
  refine ⟨?_, by rw [hname], width, by rw [← hname, ← hid, ← hslug]⟩
  rw [Made.of, ← hid, ← hslug, hcontent]

theorem exists_related {α β : Type} {R : α → β → Prop} {as : List α} {bs : List β} {b : β}
    (h : List.Forall₂ R as bs) (hb : b ∈ bs) : ∃ a ∈ as, R a b := by
  induction h with
  | nil => cases hb
  | cons hrelated _ ih =>
      rcases List.mem_cons.mp hb with rfl | hb
      · exact ⟨_, List.mem_cons_self, hrelated⟩
      · obtain ⟨a, ha, hrelated⟩ := ih hb
        exact ⟨a, List.mem_cons_of_mem _ ha, hrelated⟩

/-- Where each pair of two lists brings forth something, the pairs bring forth a third list. -/
theorem exists_produced {α β γ : Type} {R : α → β → Prop} {S : β → γ → Prop} {f : γ → α}
    {as : List α} {bs : List β} (h : List.Forall₂ R as bs)
    (each : ∀ b ∈ bs, ∀ a ∈ as, R a b → ∃ c, S b c ∧ f c = a) :
    ∃ cs, List.Forall₂ S bs cs ∧ cs.map f = as := by
  induction h with
  | nil => exact ⟨[], .nil, rfl⟩
  | cons hrelated _ ih =>
      obtain ⟨c, hc, rfl⟩ := each _ List.mem_cons_self _ List.mem_cons_self hrelated
      obtain ⟨cs, hcs, rfl⟩ := ih fun b hb a ha =>
        each b (List.mem_cons_of_mem _ hb) a (List.mem_cons_of_mem _ ha)
      exact ⟨c :: cs, .cons hc hcs, rfl⟩

theorem map_eq_of_related {α β γ : Type} {R : α → β → Prop} {S : β → γ → Prop} {f : γ → α}
    {as : List α} {bs : List β} {cs : List γ} (h : List.Forall₂ R as bs) (h' : List.Forall₂ S bs cs)
    (each : ∀ b ∈ bs, ∀ a ∈ as, ∀ c, R a b → S b c → f c = a) : cs.map f = as := by
  induction h generalizing cs with
  | nil =>
      cases h'
      rfl
  | cons hrelated _ ih =>
      cases h' with
      | cons hc hcs =>
          rw [List.map_cons, each _ List.mem_cons_self _ List.mem_cons_self _ hrelated hc, ih hcs]
          intro b hb a ha
          exact each b (List.mem_cons_of_mem _ hb) a (List.mem_cons_of_mem _ ha)

theorem file_unique {a b : Name × Octets} {files : List (Name × Octets)} {m n : Made}
    (h : List.Forall₂ Made.Filed made files) (distinct : (made.map (·.id)).Nodup)
    (clean : ∀ m ∈ made, Slug.Clean m.slug) (hm : Slug.Clean m.slug) (hn : Slug.Clean n.slug)
    (ha : a ∈ files) (hb : b ∈ files) (hma : m.Filed a) (hnb : n.Filed b) (hid : m.id = n.id) :
    a = b := by
  have hsame : ∀ {k l : Made} {file : Name × Octets}, Slug.Clean k.slug → Slug.Clean l.slug →
      k.Filed file → l.Filed file → k.id = l.id := by
    rintro k l file hk hl ⟨width, rfl⟩ ⟨width', heq⟩
    exact (write_injective hk hl (Prod.mk.inj heq).1).1
  induction h with
  | nil => cases ha
  | @cons k file made files hfiled hrest ih =>
      obtain ⟨hnew, hdistinct⟩ := List.nodup_cons.mp distinct
      have hk := clean k List.mem_cons_self
      have hclean : ∀ l ∈ made, Slug.Clean l.slug :=
        fun l hl => clean l (List.mem_cons_of_mem k hl)
      have hother : ∀ {l : Made} {x : Name × Octets}, Slug.Clean l.slug → x ∈ files → l.Filed x →
          l.id ≠ k.id := by
        intro l x hl hx hlx heq
        obtain ⟨o, ho, hox⟩ := exists_related hrest hx
        have hoid : o.id = l.id := hsame (hclean o ho) hl hox hlx
        exact hnew (List.mem_map.mpr ⟨o, ho, hoid.trans heq⟩)
      rcases List.mem_cons.mp ha with rfl | harest
      · rcases List.mem_cons.mp hb with rfl | hbrest
        · rfl
        · exact absurd (hid.symm.trans (hsame hm hk hma hfiled)) (hother hn hbrest hnb)
      · rcases List.mem_cons.mp hb with rfl | hbrest
        · exact absurd (hid.trans (hsame hn hk hnb hfiled)) (hother hm harest hma)
        · exact ih hdistinct hclean harest hbrest

namespace Stocked

theorem names_eq (h : Stocked undivided tree dir loc made)
    (whole : ∀ x ∈ tree.entriesIn loc, x.2 ≠ .directory) :
    tree.names loc = (filesIn tree loc).map (·.1) := by
  have hall : ∀ entries : List (Name × Entry), (∀ x ∈ entries, ∃ content, x.2 = .file content) →
      entries.map (·.1) = (entries.filterMap fun x =>
        match x.2 with
        | .file content => some (x.1, content)
        | _ => none).map (·.1) := by
    intro entries hfiles
    induction entries with
    | nil => rfl
    | cons x rest ih =>
        obtain ⟨name, entry⟩ := x
        obtain ⟨content, rfl⟩ := hfiles _ List.mem_cons_self
        rw [List.map_cons, ih fun y hy => hfiles y (List.mem_cons_of_mem _ hy)]
        rfl
  rw [Tree.names_eq]
  refine hall _ ?_
  intro x hx
  rcases h.others x hx with hdir | hfile
  · exact absurd hdir (whole x hx)
  · exact hfile

theorem enters (h : Stocked undivided tree dir loc made) {x : Name × Entry}
    (hx : x ∈ tree.entriesIn loc) : tree.Enters (dir.join x.1) loc x.1 :=
  h.denotes.leads.enters (h.fits x hx).plain

theorem get?_eq (h : Stocked undivided tree dir loc made) {name : Name} {entry : Entry}
    (hx : (name, entry) ∈ tree.entriesIn loc) : tree.get? (name :: loc) = some entry :=
  h.proper.get?_of_mem (Tree.mem_entriesIn.mp hx)

/-! ## What a scan makes of it -/

section Scan

variable (h : Stocked undivided tree dir loc made) {name : Name} {content : Octets} {m : Migration}

include h

theorem read_eq (hx : (name, .file content) ∈ tree.entriesIn loc) :
    tree.read (dir.join name) = (Tree.spelled (dir.join name)).map fun _ => content :=
  Tree.read_file (h.enters hx) (h.fits _ hx).short (h.get?_eq hx)

theorem of_reads {k : Made} (clean : Slug.Clean k.slug) (filed : k.Filed (name, content))
    (hx : (name, .file content) ∈ tree.entriesIn loc) (reads : Reads (.ofTree tree) dir name m) :
    Made.of m = k ∧ Text.octets m.name = name ∧
      ∃ width, m.name = FileName.write width m.id m.slug :=
  made_of_reads (fun _ => rfl) h.proper h.denotes clean filed hx reads

variable {found : List Migration} (finds : Finds (.ofTree tree) dir found)

include finds

theorem reads_names : List.Forall₂ (Reads (.ofTree tree) dir) (tree.names loc) found :=
  names_of_finds h.denotes finds

/-- A scan fails if there is a directory. -/
theorem whole_of_finds : ∀ x ∈ tree.entriesIn loc, x.2 ≠ .directory := by
  rintro ⟨name, entry⟩ hx rfl
  have hname : name ∈ tree.names loc := by
    rw [Tree.names_eq]
    exact List.mem_map_of_mem hx
  obtain ⟨m, _, hm⟩ := exists_related (h.reads_names finds).flip hname
  have hread : tree.read m.path = .ok (Text.octets m.content) := hm.content
  rw [hm.path] at hread
  exact Tree.read_directory (h.enters hx) (h.fits _ hx).short (h.get?_eq hx) _ hread

/-- A scan finds what has been created. -/
theorem found_eq : found.map Made.of = made := by
  have hreads := h.reads_names finds
  rw [h.names_eq (h.whole_of_finds finds), List.forall₂_map_left_iff] at hreads
  refine map_eq_of_related h.files hreads ?_
  intro file hfile k hk m hfiled hm
  exact (h.of_reads (h.clean k hk) hfiled (mem_filesIn.mp hfile) hm).1

/-- A scan fails if the path of a file is too long. -/
theorem short_of_finds : ∀ name ∈ tree.names loc,
    (dir.join name).octets.length < Tree.pathLimit := by
  intro name hname
  obtain ⟨m, _, hm⟩ := exists_related (h.reads_names finds).flip hname
  rw [h.names_eq (h.whole_of_finds finds)] at hname
  obtain ⟨file, hfile, rfl⟩ := List.mem_map.mp hname
  have hread : tree.read m.path = .ok (Text.octets m.content) := hm.content
  rw [hm.path] at hread
  have hx := mem_filesIn.mp hfile
  exact (Tree.spelled_iff.mp (Tree.eq_of_read_file (h.enters hx) (h.get?_eq hx) hread).2).2.2

end Scan

theorem exists_reads (h : Stocked undivided tree dir loc made) {k : Made}
    (clean : Slug.Clean k.slug) {file : Name × Octets} (hfile : file ∈ filesIn tree loc)
    (filed : k.Filed file) (short : (dir.join file.1).octets.length < Tree.pathLimit) :
    ∃ m, Reads (.ofTree tree) dir file.1 m ∧ Made.of m = k := by
  obtain ⟨width, rfl⟩ := filed
  have hx := mem_filesIn.mp hfile
  have hread := h.read_eq hx
  rw [(Tree.spelled_join h.denotes.spelled (h.fits _ hx)).mpr short] at hread
  have hheading := heading_write width k.id clean
  exact ⟨⟨_, _, k.content, k.id, k.slug, _⟩, ⟨hheading, rfl, hread⟩, rfl⟩

/-- A scan succeeds exactly if there is no directory and the path of no file is too long. -/
theorem finds_iff (h : Stocked undivided tree dir loc made) :
    (∃ found, Finds (.ofTree tree) dir found) ↔
      (∀ x ∈ tree.entriesIn loc, x.2 ≠ .directory) ∧
        ∀ name ∈ tree.names loc, (dir.join name).octets.length < Tree.pathLimit := by
  constructor
  · rintro ⟨found, finds⟩
    exact ⟨h.whole_of_finds finds, h.short_of_finds finds⟩
  · rintro ⟨hwhole, hshort⟩
    have hnames := h.names_eq hwhole
    obtain ⟨found, hfound, hof⟩ := exists_produced h.files
      fun file hfile k hk filed => h.exists_reads (h.clean k hk) hfile filed
        (hshort _ (hnames ▸ List.mem_map_of_mem hfile))
    refine ⟨found, tree.names loc, list_of_denotes h.denotes, ?_, ?_⟩
    · rw [hnames]
      exact List.forall₂_map_left_iff.mpr hfound
    · have hids := h.distinct
      rw [← hof, List.map_map] at hids
      exact hids

/-! ## Changes -/

theorem create (h : Stocked undivided tree dir loc made) {m : Made} {width : Nat}
    (clean : Slug.Clean m.slug) (vacant : m.id ∉ made.map (·.id)) {name : Name}
    (hname : name = Text.octets (FileName.write width m.id m.slug)) (fits : Fits name)
    (fresh : tree.get? (name :: loc) = none) :
    Stocked undivided (tree.add (name :: loc) (.file (Text.octets m.content))) dir loc
      (made ++ [m]) := by
  have hkeeps := Tree.keeps_add tree (name :: loc) (.file (Text.octets m.content))
  have hentries : ∀ x ∈ (tree.add (name :: loc) (.file (Text.octets m.content))).entriesIn loc,
      x ∈ tree.entriesIn loc ∨ x = (name, .file (Text.octets m.content)) := by
    intro x hx
    rw [Tree.entriesIn_add, if_pos rfl] at hx
    exact (List.mem_append.mp hx).imp_right List.mem_singleton.mp
  refine ⟨h.proper.add fresh h.denotes.leads.isDirectory _, h.denotes.mono hkeeps, ?_, ?_, ?_, ?_,
    ?_, ?_⟩
  · rw [filesIn_add]
    exact List.rel_append h.files (.cons ⟨width, by rw [hname]⟩ .nil)
  · intro x hx
    rcases hentries x hx with hx | rfl
    · exact h.fits x hx
    · exact fits
  · intro x hx
    rcases hentries x hx with hx | rfl
    · exact h.others x hx
    · exact .inr ⟨_, rfl⟩
  · intro hundivided x hx
    rcases hentries x hx with hx | rfl
    · exact h.whole hundivided x hx
    · exact nofun
  · rw [List.map_append]
    refine h.distinct.append (List.nodup_singleton _) ?_
    intro id hid hnew
    rw [List.mem_singleton.mp hnew] at hid
    exact vacant hid
  · intro k hk
    rcases List.mem_append.mp hk with hk | hk
    · exact h.clean k hk
    · rw [List.mem_singleton.mp hk]
      exact clean

theorem rename (h : Stocked undivided tree dir loc made) {m : Made} {oldName newName : Name}
    {content : Octets} {width : Nat} (clean : Slug.Clean m.slug) (filed : m.Filed (oldName, content))
    (hx : (oldName, .file content) ∈ tree.entriesIn loc)
    (hname : newName = Text.octets (FileName.write width m.id m.slug)) (fits : Fits newName)
    (fresh : tree.get? (newName :: loc) = none) :
    Stocked undivided (tree.carry (oldName :: loc) (newName :: loc)) dir loc made := by
  have hfile := h.get?_eq hx
  have hentries := Tree.entriesIn_carry tree oldName newName loc
  have hkind : ∀ x ∈ (tree.carry (oldName :: loc) (newName :: loc)).entriesIn loc,
      ∃ y ∈ tree.entriesIn loc, x.2 = y.2 ∧ (x.1 = newName ∨ x.1 = y.1) := by
    intro x hx
    rw [hentries] at hx
    obtain ⟨y, hy, rfl⟩ := List.mem_map.mp hx
    refine ⟨y, hy, ?_⟩
    split
    · exact ⟨rfl, .inl rfl⟩
    · exact ⟨rfl, .inr rfl⟩
  have hleaf : tree.get? (oldName :: loc) ≠ some .directory := by
    rw [hfile]
    exact nofun
  refine ⟨h.proper.carry hleaf fresh h.denotes.leads.isDirectory,
    h.denotes.mono (Tree.keeps_carry h.proper fresh hfile), ?_, ?_, ?_, ?_, h.distinct, h.clean⟩
  · rw [filesIn_carry]
    refine List.forall₂_map_right_iff.mpr ?_
    refine ((List.forall₂_and_left _ _).mpr ⟨h.clean, h.files⟩).imp ?_
    rintro k file ⟨hk, width', hfile⟩
    split
    · next hold =>
        -- Only this migration has the old name, for names say which migrations they are of.
        obtain ⟨_, hwritten⟩ := filed
        have hsame := (congrArg Prod.fst hfile).symm.trans (hold.trans (congrArg Prod.fst hwritten))
        obtain ⟨hid, hslug⟩ := write_injective hk clean hsame
        exact ⟨width, by rw [hname, hid, hslug, hfile]⟩
    · exact ⟨width', hfile⟩
  · intro x hx
    obtain ⟨y, hy, _, heq | heq⟩ := hkind x hx
    · rw [heq]
      exact fits
    · rw [heq]
      exact h.fits y hy
  · intro x hx
    obtain ⟨y, hy, heq, _⟩ := hkind x hx
    rw [heq]
    exact h.others y hy
  · intro hundivided x hx
    obtain ⟨y, hy, heq, _⟩ := hkind x hx
    rw [heq]
    exact h.whole hundivided y hy

end Stocked

end SchemaLedger.Directory
