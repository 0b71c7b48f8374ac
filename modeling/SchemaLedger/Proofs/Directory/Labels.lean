import SchemaLedger.Proofs.Directory.Authoring
import SchemaLedger.Proofs.Files.Leaf
import SchemaLedger.Proofs.NameOrder

/-! # The labels of a directory

The names of a directory announce migrations, whatever the entries hold. Commands add names and pad
them; what a name announces besides its digits stays. -/

namespace SchemaLedger

open Files (Fits Location Tree)

/-- A tree where entries have names that a file system allows. -/
structure Files.Tree.Sound (tree : Tree) : Prop where
  proper : tree.Proper
  fits : ∀ loc, ∀ name ∈ tree.names loc, Fits name

namespace Directory

/-! ## Headings -/

namespace Heading

def written (width : Nat) (id : Ident) (slug : String) : Heading :=
  ⟨FileName.write width id slug, id, slug, String.ofList (Decimal.padded width id.digits)⟩

def of (m : Migration) : Heading := ⟨m.name, m.id, m.slug, m.digits⟩

def entry (h : Heading) : Name := Text.octets h.name

def migration (dir : Path) (content : String) (h : Heading) : Migration :=
  ⟨dir.join h.entry, h.name, content, h.id, h.slug, h.digits⟩

def extent (h : Heading) : Nat := h.digits.length

def padded (width : Nat) (h : Heading) : Heading := written width h.id h.slug

/-- Pads the ID if it is one of some. -/
def paddedIn (width : Nat) (ids : List Ident) (h : Heading) : Heading :=
  if h.id ∈ ids then h.padded width else h

def maxWidth (hs : List Heading) : Nat := (hs.map fun h => h.id.width).foldr max 0

@[simp] theorem extent_written (width : Nat) (id : Ident) (slug : String) :
    (written width id slug).extent = max width id.width := by
  rw [extent, written, String.length_ofList, Ident.length_padded]

@[simp] theorem paddedIn_id (width : Nat) (ids : List Ident) (h : Heading) :
    (h.paddedIn width ids).id = h.id := by
  rw [paddedIn]
  split <;> rfl

@[simp] theorem ids_paddedIn (width : Nat) (ids : List Ident) (hs : List Heading) :
    (hs.map (·.paddedIn width ids)).map (·.id) = hs.map (·.id) := by
  rw [List.map_map]
  exact List.map_congr_left fun h _ => paddedIn_id width ids h

@[simp] theorem map_paddedIn_nil (width : Nat) (hs : List Heading) :
    hs.map (·.paddedIn width []) = hs := by
  have hnone : ∀ h ∈ hs, h.paddedIn width [] = h := fun _ _ => if_neg List.not_mem_nil
  rw [List.map_congr_left hnone, List.map_id']

theorem paddedIn_cons (width : Nat) (id : Ident) (ids : List Ident) (h : Heading) :
    (h.paddedIn width [id]).paddedIn width ids = h.paddedIn width (id :: ids) := by
  by_cases hfirst : h.id = id
  · have hone : h.paddedIn width [id] = h.padded width := if_pos (by simp [hfirst])
    have hboth : h.paddedIn width (id :: ids) = h.padded width := if_pos (by simp [hfirst])
    rw [hone, hboth, paddedIn]
    split <;> rfl
  · have hone : h.paddedIn width [id] = h := if_neg (by simp [hfirst])
    rw [hone]
    simp [paddedIn, hfirst]

theorem map_paddedIn_cons (width : Nat) (id : Ident) (ids : List Ident) (hs : List Heading) :
    (hs.map (·.paddedIn width [id])).map (·.paddedIn width ids) =
      hs.map (·.paddedIn width (id :: ids)) := by
  rw [List.map_map]
  exact List.map_congr_left fun h _ => paddedIn_cons width id ids h

theorem maxWidth_of (ms : List Migration) : maxWidth (ms.map of) = Migration.maxWidth ms := by
  rw [maxWidth, Migration.maxWidth, List.map_map]
  rfl

end Heading

/-- Names that announce some migrations. -/
structure Announce (names : List Name) (hs : List Heading) : Prop where
  names_eq : names = hs.map Heading.entry
  reads : ∀ h ∈ hs, heading h.entry = .ok h

namespace Announce

variable {names : List Name} {hs hs' : List Heading} {h : Heading}

theorem mem_names (announce : Announce names hs) {name : Name} :
    name ∈ names ↔ ∃ h ∈ hs, h.entry = name := by
  rw [announce.names_eq, List.mem_map]

theorem of_related (h : List.Forall₂ (fun name h => heading name = .ok h) names hs) :
    Announce names hs := by
  induction h with
  | nil => exact ⟨rfl, nofun⟩
  | @cons name h names hs hread _ ih =>
      have hentry : name = h.entry := (heading_eq_ok hread).1
      refine ⟨by rw [List.map_cons, ← hentry, ← ih.names_eq], ?_⟩
      intro k hk
      rcases List.mem_cons.mp hk with rfl | hk
      · exact hentry ▸ hread
      · exact ih.reads k hk

theorem unique (announce : Announce names hs) (announce' : Announce names hs') : hs = hs' := by
  obtain ⟨rfl, hreads⟩ := announce
  obtain ⟨hnames, hreads'⟩ := announce'
  have hheadings : ∀ {ks : List Heading}, (∀ k ∈ ks, heading k.entry = .ok k) →
      (ks.map Heading.entry).map heading = ks.map .ok := by
    intro ks hks
    rw [List.map_map]
    exact List.map_congr_left hks
  have hsame := hheadings hreads
  rw [hnames, hheadings hreads'] at hsame
  exact (List.map_injective_iff.mpr (fun _ _ => Except.ok.inj) hsame).symm

theorem entry_inj (announce : Announce names hs) {a b : Heading} (ha : a ∈ hs) (hb : b ∈ hs)
    (h : a.entry = b.entry) : a = b := by
  have hread := announce.reads a ha
  rw [h, announce.reads b hb] at hread
  exact (Except.ok.inj hread).symm

theorem concat (announce : Announce names hs) (width : Nat) (id : Ident) {slug : String}
    (clean : Slug.Clean slug) :
    Announce (names ++ [(Heading.written width id slug).entry])
      (hs ++ [.written width id slug]) := by
  constructor
  · rw [List.map_append, announce.names_eq]
    rfl
  · intro h hh
    rcases List.mem_append.mp hh with hh | hh
    · exact announce.reads h hh
    · rw [List.mem_singleton.mp hh]
      exact heading_write width id clean

/-- One name with another padding, where no other announces the same ID. -/
theorem pad (announce : Announce names hs) (width : Nat) (clean : ∀ k ∈ hs, Slug.Clean k.slug)
    (hh : h ∈ hs) (sole : ∀ k ∈ hs, k.id = h.id → k = h) :
    Announce (names.map fun name => if name = h.entry then (h.padded width).entry else name)
      (hs.map (·.paddedIn width [h.id])) := by
  constructor
  · rw [announce.names_eq, List.map_map, List.map_map]
    refine List.map_congr_left ?_
    intro k hk
    change (if k.entry = h.entry then _ else _) = (k.paddedIn width [h.id]).entry
    by_cases hid : k.id = h.id
    · rw [sole k hk hid, if_pos rfl, Heading.paddedIn, if_pos (by simp)]
    · have hentry : k.entry ≠ h.entry := fun hsame =>
        hid (congrArg Heading.id (announce.entry_inj hk hh hsame))
      rw [if_neg hentry, Heading.paddedIn, if_neg (by simpa using hid)]
  · intro k hk
    obtain ⟨old, hold, rfl⟩ := List.mem_map.mp hk
    rw [Heading.paddedIn]
    split
    · exact heading_write width old.id (clean old hold)
    · exact announce.reads old hold

section Heading

variable (announce : Announce names hs) (hh : h ∈ hs)

include announce hh

theorem eq_written : h = .written h.extent h.id h.slug := by
  obtain ⟨_, hname, hdigits, _⟩ := heading_eq_ok (announce.reads h hh)
  obtain ⟨name, id, slug, digits⟩ := h
  rw [Heading.written, Heading.mk.injEq]
  exact ⟨hname, rfl, rfl, hdigits⟩

theorem width_le : h.id.width ≤ h.extent := by
  have hextent := congrArg Heading.extent (announce.eq_written hh)
  rw [Heading.extent_written] at hextent
  omega

theorem clean (plain : Path.Plain h.entry) : Slug.Clean h.slug := by
  obtain ⟨_, hname, _, hline⟩ := heading_eq_ok (announce.reads h hh)
  refine ⟨hline, ?_⟩
  intro hslash
  refine plain.1 ?_
  rw [Heading.entry, hname, Text.octets_eq_flatMap, FileName.write, String.toList_ofList]
  exact List.mem_flatMap.mpr ⟨'/', by simp [hslash], by decide⟩

end Heading

end Announce

/-! ## Labelled directories -/

/-- The names of a directory announce migrations, none of them twice, and no entry is in the way of
a walk to a directory. -/
structure Labelled (tree : Tree) (dir : Path) (loc : Location) (hs : List Heading) : Prop where
  proper : tree.Proper
  denotes : tree.Denotes dir loc
  fits : ∀ name ∈ tree.names loc, Fits name
  leaves : ∀ name ∈ tree.names loc, tree.Leaf loc name
  announce : Announce (tree.names loc) hs
  distinct : (hs.map (·.id)).Nodup

variable {now : Int} {tree : Tree} {dir : Path} {loc : Location} {hs : List Heading} {h : Heading}

theorem mem_names_iff (proper : tree.Proper) {name : Name} :
    name ∈ tree.names loc ↔ ∃ entry, tree.get? (name :: loc) = some entry := by
  rw [Tree.names_eq, List.mem_map]
  constructor
  · rintro ⟨⟨_, entry⟩, hmem, rfl⟩
    exact ⟨entry, proper.get?_of_mem (Tree.mem_entriesIn.mp hmem)⟩
  · rintro ⟨entry, hfound⟩
    exact ⟨⟨name, entry⟩, Tree.mem_entriesIn.mpr (Tree.mem_of_get? (List.cons_ne_nil _ _) hfound), rfl⟩

theorem announce_of_finds {found : List Migration} (denotes : tree.Denotes dir loc)
    (finds : Finds (.ofTree tree) dir found) :
    Announce (tree.names loc) (found.map .of) := by
  have hreads := names_of_finds denotes finds
  refine .of_related (List.forall₂_map_right_iff.mpr (hreads.imp ?_))
  intro name m hm
  exact hm.heading

namespace Labelled

theorem of_finds (sound : tree.Sound) (denotes : tree.Denotes dir loc) {found : List Migration}
    (finds : Finds (.ofTree tree) dir found) : Labelled tree dir loc (found.map .of) := by
  refine ⟨sound.proper, denotes, sound.fits loc, ?_, announce_of_finds denotes finds, ?_⟩
  · intro name hname
    have hfits := sound.fits loc name hname
    obtain ⟨m, _, hm⟩ := exists_related (names_of_finds denotes finds).flip hname
    have hread : tree.read m.path = .ok (Text.octets m.content) := hm.content
    rw [hm.path] at hread
    exact .of_read (denotes.leads.enters hfits.plain) hfits.short hread
  · rw [List.map_map]
    obtain ⟨_, _, _, hnodup⟩ := finds
    exact hnodup

section Labelled

variable (labelled : Labelled tree dir loc hs)

include labelled

theorem of_mem (hh : h ∈ hs) : h.entry ∈ tree.names loc :=
  labelled.announce.mem_names.mpr ⟨h, hh, rfl⟩

theorem clean (hh : h ∈ hs) : Slug.Clean h.slug :=
  labelled.announce.clean hh (labelled.fits _ (labelled.of_mem hh)).plain

theorem eq_of_id {k : Heading} (hh : h ∈ hs) (hk : k ∈ hs) (hid : h.id = k.id) : h = k :=
  List.inj_on_of_nodup_map labelled.distinct hh hk hid

/-- Only a migration of the same ID can be in the way of a new name. -/
theorem fresh {width : Nat} {id : Ident} {slug : String} (clean : Slug.Clean slug)
    (other : ∀ k ∈ hs, k.id = id → k.extent < width) :
    tree.get? ((Heading.written width id slug).entry :: loc) = none := by
  cases hfound : tree.get? ((Heading.written width id slug).entry :: loc) with
  | none => rfl
  | some entry =>
      have hmem := (mem_names_iff labelled.proper).mpr ⟨entry, hfound⟩
      obtain ⟨k, hk, hentry⟩ := labelled.announce.mem_names.mp hmem
      have hread := labelled.announce.reads k hk
      have hwritten : heading (Heading.written width id slug).entry =
          .ok (.written width id slug) := heading_write width id clean
      rw [hentry, hwritten, Except.ok.injEq] at hread
      have hshort := other k hk (by rw [← hread]; rfl)
      rw [← hread, Heading.extent_written] at hshort
      omega

theorem add {width : Nat} {id : Ident} {slug : String} (clean : Slug.Clean slug)
    (vacant : id ∉ hs.map (·.id)) (fits : Fits (Heading.written width id slug).entry)
    (content : Octets) :
    Labelled (tree.add ((Heading.written width id slug).entry :: loc) (.file content)) dir loc
      (hs ++ [.written width id slug]) := by
  have hfresh : tree.get? ((Heading.written width id slug).entry :: loc) = none := by
    refine labelled.fresh clean ?_
    intro k hk hid
    exact absurd (List.mem_map.mpr ⟨k, hk, hid⟩) vacant
  have hnames := Tree.names_add tree (Heading.written width id slug).entry loc (.file content)
  have hdir := labelled.denotes.leads.isDirectory
  refine ⟨labelled.proper.add hfresh hdir _, labelled.denotes.mono (Tree.keeps_add _ _ _), ?_, ?_,
    ?_, ?_⟩
  · intro name hname
    rw [hnames] at hname
    rcases List.mem_append.mp hname with hname | hname
    · exact labelled.fits name hname
    · exact List.mem_singleton.mp hname ▸ fits
  · intro name hname
    rw [hnames] at hname
    rcases List.mem_append.mp hname with hname | hname
    · exact (labelled.leaves name hname).mono (Tree.keeps_of_add labelled.proper content)
    · rw [List.mem_singleton.mp hname]
      exact .of_file (Tree.get?_add_self hfresh)
  · rw [hnames]
    exact labelled.announce.concat width id clean
  · rw [List.map_append]
    refine labelled.distinct.append (List.nodup_singleton _) ?_
    intro other hother hnew
    have hnew : other = id := List.mem_singleton.mp hnew
    exact vacant (hnew ▸ hother)

/-- Padding the name of an entry that is short. -/
theorem rename {width : Nat} (hh : h ∈ hs) (short : h.extent < width)
    (fits : Fits (h.padded width).entry) :
    Labelled (tree.carry (h.entry :: loc) ((h.padded width).entry :: loc)) dir loc
      (hs.map (·.paddedIn width [h.id])) := by
  have hsole : ∀ k ∈ hs, k.id = h.id → k = h := fun k hk hid => labelled.eq_of_id hk hh hid
  have hfresh : tree.get? ((h.padded width).entry :: loc) = none := by
    refine labelled.fresh (labelled.clean hh) ?_
    intro k hk hid
    rwa [hsole k hk hid]
  have hleaf := labelled.leaves _ (labelled.of_mem hh)
  have hdir := labelled.denotes.leads.isDirectory
  have hnames := Tree.names_carry tree h.entry (h.padded width).entry loc
  have hkind : ∀ name ∈ (tree.carry (h.entry :: loc) ((h.padded width).entry :: loc)).names loc,
      name ∈ tree.names loc ∨ name = (h.padded width).entry := by
    intro name hname
    rw [hnames] at hname
    obtain ⟨old, hold, rfl⟩ := List.mem_map.mp hname
    split
    · exact .inr rfl
    · exact .inl hold
  refine ⟨labelled.proper.carry hleaf.undivided hfresh hdir,
    labelled.denotes.carry labelled.proper hleaf hfresh, ?_, ?_, ?_, ?_⟩
  · intro name hname
    rcases hkind name hname with hold | rfl
    · exact labelled.fits name hold
    · exact fits
  · intro name hname
    refine Tree.Leaf.carry labelled.proper hleaf ?_
    rcases hkind name hname with hold | rfl
    · exact labelled.leaves name hold
    · exact .of_fresh hfresh
  · rw [hnames]
    exact labelled.announce.pad width (fun k hk => labelled.clean hk) hh hsole
  · rw [Heading.ids_paddedIn]
    exact labelled.distinct

theorem enters (hh : h ∈ hs) : tree.Enters (dir.join h.entry) loc h.entry :=
  labelled.denotes.leads.enters (labelled.fits _ (labelled.of_mem hh)).plain

end Labelled

end Labelled

end Directory

end SchemaLedger
