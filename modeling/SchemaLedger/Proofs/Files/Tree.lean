import Mathlib.Data.List.Nodup
import SchemaLedger.Proofs.Files.Walk

/-! # Trees as file systems have them

Every entry has a location of its own, below a directory. Adding an entry or giving a file another
name keeps it so, and neither gets in the way of a walk. -/

namespace SchemaLedger.Files.Tree

variable {tree : Tree} {loc parent old new : Location} {name oldName newName : Name} {entry : Entry}

structure Proper (tree : Tree) : Prop where
  distinct : (tree.entries.map (·.1)).Nodup
  parents : ∀ loc entry, (loc, entry) ∈ tree.entries →
    ∃ name parent, loc = name :: parent ∧ tree.isDirectory parent = true

def entriesIn (tree : Tree) (loc : Location) : List (Name × Entry) :=
  tree.entries.filterMap fun (location, entry) =>
    match location with
    | [] => none
    | name :: parent => if parent = loc then some (name, entry) else none

/-! ## What is where -/

theorem mem_entriesIn : (name, entry) ∈ tree.entriesIn loc ↔ (name :: loc, entry) ∈ tree.entries := by
  rw [entriesIn, List.mem_filterMap]
  constructor
  · rintro ⟨⟨location, found⟩, hmem, hsome⟩
    cases location with
    | nil => cases hsome
    | cons first parent =>
        by_cases hparent : parent = loc
        · simp only [hparent, if_true, Option.some.injEq, Prod.mk.injEq] at hsome
          rw [← hsome.1, ← hsome.2, ← hparent]
          exact hmem
        · simp [hparent] at hsome
  · intro hmem
    exact ⟨_, hmem, by simp⟩

theorem names_eq (tree : Tree) (loc : Location) : tree.names loc = (tree.entriesIn loc).map (·.1) := by
  rw [names, entriesIn, List.map_filterMap]
  congr 1
  funext ⟨location, found⟩
  cases location with
  | nil => rfl
  | cons first parent => by_cases hparent : parent = loc <;> simp [hparent]

theorem get?_eq_none (h : tree.get? loc = none) : ∀ x ∈ tree.entries, x.1 ≠ loc := by
  intro x hx heq
  rw [get?] at h
  split at h
  · cases h
  · have hother := List.lookup_eq_none_iff.mp h x hx
    simp [heq] at hother

theorem ne_nil_of_get?_eq_none (h : tree.get? loc = none) : loc ≠ [] := by
  rintro rfl
  cases h

theorem get?_of_distinct (distinct : (tree.entries.map (·.1)).Nodup) (inner : loc ≠ [])
    (h : (loc, entry) ∈ tree.entries) : tree.get? loc = some entry := by
  rw [get?, if_neg inner]
  obtain ⟨front, back, hsplit⟩ := List.append_of_mem h
  refine List.lookup_eq_some_iff.mpr ⟨front, back, hsplit, ?_⟩
  intro x hx
  rw [hsplit, List.map_append, List.map_cons] at distinct
  have hother := (List.nodup_append.mp distinct).2.2 x.1 (List.mem_map_of_mem hx) loc
    List.mem_cons_self
  simpa using Ne.symm hother

theorem mem_of_get? (inner : loc ≠ []) (h : tree.get? loc = some entry) :
    (loc, entry) ∈ tree.entries := by
  rw [get?, if_neg inner] at h
  obtain ⟨front, back, hsplit, _⟩ := List.lookup_eq_some_iff.mp h
  rw [hsplit]
  simp

namespace Proper

variable (proper : tree.Proper)

include proper

theorem ne_nil (h : (loc, entry) ∈ tree.entries) : loc ≠ [] := by
  obtain ⟨name, parent, rfl, _⟩ := proper.parents loc entry h
  exact List.cons_ne_nil _ _

theorem get?_of_mem (h : (loc, entry) ∈ tree.entries) : tree.get? loc = some entry :=
  get?_of_distinct proper.distinct (proper.ne_nil h) h

/-- What has something below it is a directory. -/
theorem isDirectory_above (h : (loc, entry) ∈ tree.entries) (above : parent <:+ loc)
    (proper_above : parent ≠ loc) : tree.isDirectory parent = true := by
  induction loc generalizing entry with
  | nil => exact absurd rfl (proper.ne_nil h)
  | cons name rest ih =>
      obtain ⟨_, _, heq, hrest⟩ := proper.parents _ _ h
      cases heq
      rcases List.suffix_cons_iff.mp above with heq | habove
      · exact absurd heq proper_above
      · by_cases hlast : parent = rest
        · rwa [hlast]
        · have hne : rest ≠ [] := by
            rintro rfl
            exact hlast (List.suffix_nil.mp habove)
          exact ih (mem_of_get? hne (isDirectory_iff.mp hrest)) habove hlast

end Proper

/-! ## Adding an entry -/

/-- The tree with one more entry, after all others. -/
def add (tree : Tree) (loc : Location) (entry : Entry) : Tree :=
  { tree with entries := tree.entries ++ [(loc, entry)] }

theorem put_fresh (fresh : tree.get? loc = none) (entry : Entry) :
    tree.put loc entry = tree.add loc entry := by
  have hnone : tree.entries.lookup loc = none := by
    rwa [get?, if_neg (ne_nil_of_get?_eq_none fresh)] at fresh
  rw [put, hnone]
  rfl

theorem put_added (fresh : tree.get? loc = none) (entry' : Entry) :
    (tree.add loc entry).put loc entry' = tree.add loc entry' := by
  have hfound : ((tree.add loc entry).entries.lookup loc).isSome := by
    simp [add]
  have hothers : tree.entries.map (fun x => if x.1 = loc then (loc, entry') else x) =
      tree.entries := by
    calc
      _ = tree.entries.map id :=
        List.map_congr_left fun x hx => if_neg (get?_eq_none fresh x hx)
      _ = tree.entries := List.map_id _
  rw [put, if_pos hfound, add, add]
  simp [hothers]

theorem get?_add_self (fresh : tree.get? loc = none) : (tree.add loc entry).get? loc = some entry := by
  have hnone : tree.entries.lookup loc = none := by
    rwa [get?, if_neg (ne_nil_of_get?_eq_none fresh)] at fresh
  rw [get?, if_neg (ne_nil_of_get?_eq_none fresh), add, List.lookup_append, hnone]
  simp

theorem get?_add_of_some {found : Entry} (h : tree.get? parent = some found) :
    (tree.add loc entry).get? parent = some found := by
  rw [get?] at h ⊢
  split at h
  · next hroot => rwa [if_pos hroot]
  · next hinner =>
      rw [if_neg hinner, add, List.lookup_append, h]
      rfl

theorem get?_add_beside (hne : parent ≠ loc) : (tree.add loc entry).get? parent = tree.get? parent := by
  have hnone : List.lookup parent [(loc, entry)] = none := by
    rw [List.lookup_cons, beq_false_of_ne hne, List.lookup_nil]
  rw [get?, get?, add, List.lookup_append, hnone, Option.or_none]

theorem extends_add (tree : Tree) (loc : Location) (entry : Entry) :
    tree.Extends (tree.add loc entry) := ⟨rfl, fun _ _ h => get?_add_of_some h⟩

theorem keeps_add (tree : Tree) (loc : Location) (entry : Entry) : tree.Keeps (tree.add loc entry) :=
  (extends_add tree loc entry).keeps

theorem entriesIn_add (tree : Tree) (name : Name) (parent loc : Location) (entry : Entry) :
    (tree.add (name :: parent) entry).entriesIn loc =
      tree.entriesIn loc ++ if parent = loc then [(name, entry)] else [] := by
  rw [entriesIn, add, List.filterMap_append]
  by_cases hparent : parent = loc <;> simp [hparent, entriesIn]

theorem names_add (tree : Tree) (name : Name) (loc : Location) (entry : Entry) :
    (tree.add (name :: loc) entry).names loc = tree.names loc ++ [name] := by
  rw [names_eq, entriesIn_add, if_pos rfl, List.map_append, ← names_eq]
  rfl

theorem Proper.add (proper : tree.Proper) (fresh : tree.get? (name :: parent) = none)
    (dir : tree.isDirectory parent = true) (entry : Entry) :
    (tree.add (name :: parent) entry).Proper := by
  refine ⟨?_, ?_⟩
  · rw [Tree.add, List.map_append]
    refine proper.distinct.append (List.nodup_singleton _) ?_
    intro loc hloc hnew
    obtain ⟨x, hx, rfl⟩ := List.mem_map.mp hloc
    exact get?_eq_none fresh x hx (List.mem_singleton.mp hnew)
  · intro loc found h
    rcases List.mem_append.mp h with h | h
    · obtain ⟨first, above, rfl, habove⟩ := proper.parents loc found h
      exact ⟨first, above, rfl, (keeps_add tree _ entry).isDirectory habove⟩
    · cases List.mem_singleton.mp h
      exact ⟨name, parent, rfl, (keeps_add tree _ entry).isDirectory dir⟩

/-! ## Renaming what is no directory -/

/-- The tree with an entry at another location, in the same place of the order. -/
def carry (tree : Tree) (old new : Location) : Tree :=
  { tree with entries := tree.entries.map fun x => if x.1 = old then (new, x.2) else x }

theorem mem_carry : (loc, entry) ∈ (tree.carry old new).entries ↔
    loc = new ∧ (old, entry) ∈ tree.entries ∨ loc ≠ old ∧ (loc, entry) ∈ tree.entries := by
  rw [carry, List.mem_map]
  constructor
  · rintro ⟨⟨source, found⟩, hmem, heq⟩
    by_cases hsource : source = old
    · subst hsource
      simp only [if_true, Prod.mk.injEq] at heq
      obtain ⟨rfl, rfl⟩ := heq
      exact .inl ⟨rfl, hmem⟩
    · rw [if_neg hsource] at heq
      cases heq
      exact .inr ⟨hsource, hmem⟩
  · rintro (⟨rfl, hmem⟩ | ⟨hne, hmem⟩)
    · exact ⟨_, hmem, if_pos rfl⟩
    · exact ⟨_, hmem, if_neg hne⟩

section Carry

variable (proper : tree.Proper)

include proper

theorem remove_fresh (fresh : tree.get? new = none) : tree.remove new = tree := by
  have hall : tree.entries.filter (fun x => !new.isSuffixOf x.1) = tree.entries := by
    refine List.filter_eq_self.mpr ?_
    rintro ⟨loc, entry⟩ hmem
    simp only [Bool.not_eq_true', ← Bool.not_eq_true, List.isSuffixOf_iff_suffix]
    intro habove
    by_cases hsame : new = loc
    · exact get?_eq_none fresh _ hmem hsame.symm
    · have hdir := isDirectory_iff.mp (proper.isDirectory_above hmem habove hsame)
      rw [fresh] at hdir
      cases hdir
  rw [remove, hall]

theorem move_leaf (leaf : tree.get? old ≠ some .directory) :
    tree.move old new = tree.carry old new := by
  rw [move, carry]
  congr 1
  refine List.map_congr_left ?_
  rintro ⟨loc, entry⟩ hmem
  by_cases hsame : loc = old
  · subst hsame
    simp [relocate]
  · have hbeside : ¬ old <:+ loc := by
      intro habove
      exact leaf (isDirectory_iff.mp (proper.isDirectory_above hmem habove (Ne.symm hsame)))
    simp [relocate, hsame, hbeside]

variable (fresh : tree.get? new = none)

include fresh

theorem distinct_carry : ((tree.carry old new).entries.map (·.1)).Nodup := by
  have hkeys : (tree.carry old new).entries.map (·.1) =
      (tree.entries.map (·.1)).map fun loc => if loc = old then new else loc := by
    rw [carry, List.map_map, List.map_map]
    refine List.map_congr_left ?_
    rintro ⟨loc, entry⟩ _
    by_cases hsame : loc = old <;> simp [hsame]
  have hother : ∀ loc ∈ tree.entries.map (·.1), loc ≠ new := by
    intro loc hloc
    obtain ⟨x, hx, rfl⟩ := List.mem_map.mp hloc
    exact get?_eq_none fresh x hx
  rw [hkeys]
  refine proper.distinct.map_on ?_
  intro a ha b hb heq
  by_cases haold : a = old
  · by_cases hbold : b = old
    · rw [haold, hbold]
    · rw [if_pos haold, if_neg hbold] at heq
      exact absurd heq.symm (hother b hb)
  · by_cases hbold : b = old
    · rw [if_neg haold, if_pos hbold] at heq
      exact absurd heq (hother a ha)
    · rwa [if_neg haold, if_neg hbold] at heq

theorem get?_carry (hne : loc ≠ old) (h : tree.get? loc = some entry) :
    (tree.carry old new).get? loc = some entry := by
  by_cases hroot : loc = []
  · rw [hroot] at h ⊢
    exact h
  · exact get?_of_distinct (distinct_carry proper fresh) hroot
      (mem_carry.mpr (.inr ⟨hne, mem_of_get? hroot h⟩))

theorem get?_carry_beside (hold : loc ≠ old) (hnew : loc ≠ new) :
    (tree.carry old new).get? loc = tree.get? loc := by
  by_cases hroot : loc = []
  · rw [hroot]
    rfl
  · cases hfound : tree.get? loc with
    | some entry => exact get?_carry proper fresh hold hfound
    | none =>
        cases hcarried : (tree.carry old new).get? loc with
        | none => rfl
        | some entry =>
            rcases mem_carry.mp (mem_of_get? hroot hcarried) with ⟨hsame, _⟩ | ⟨_, hmem⟩
            · exact absurd hsame hnew
            · exact absurd rfl (get?_eq_none hfound _ hmem)

theorem isDirectory_carry (leaf : tree.get? old ≠ some .directory)
    (h : tree.isDirectory loc = true) : (tree.carry old new).isDirectory loc = true := by
  have hfound := isDirectory_iff.mp h
  refine isDirectory_iff.mpr (get?_carry proper fresh ?_ hfound)
  rintro rfl
  exact leaf hfound

/-- Where a file is renamed, directories and links stay. -/
theorem keeps_carry {content : Octets} (file : tree.get? old = some (.file content)) :
    tree.Keeps (tree.carry old new) := by
  have hkept : ∀ loc entry, (∀ c, entry ≠ .file c) → tree.get? loc = some entry →
      (tree.carry old new).get? loc = some entry := by
    intro loc entry hother hfound
    refine get?_carry proper fresh ?_ hfound
    rintro rfl
    rw [file] at hfound
    exact hother content (Option.some.inj hfound).symm
  exact ⟨rfl, fun loc => hkept loc _ nofun, fun loc target => hkept loc _ nofun⟩

end Carry

theorem Proper.carry (proper : tree.Proper) (leaf : tree.get? old ≠ some .directory)
    (fresh : tree.get? (name :: parent) = none) (dir : tree.isDirectory parent = true) :
    (tree.carry old (name :: parent)).Proper := by
  refine ⟨distinct_carry proper fresh, ?_⟩
  intro loc found h
  rcases mem_carry.mp h with ⟨rfl, _⟩ | ⟨_, hmem⟩
  · exact ⟨name, parent, rfl, isDirectory_carry proper fresh leaf dir⟩
  · obtain ⟨first, above, rfl, habove⟩ := proper.parents loc found hmem
    exact ⟨first, above, rfl, isDirectory_carry proper fresh leaf habove⟩

theorem entriesIn_carry (tree : Tree) (oldName newName : Name) (loc : Location) :
    (tree.carry (oldName :: loc) (newName :: loc)).entriesIn loc =
      (tree.entriesIn loc).map fun x => if x.1 = oldName then (newName, x.2) else x := by
  rw [entriesIn, entriesIn, carry, List.filterMap_map, List.map_filterMap]
  congr 1
  funext ⟨location, found⟩
  cases location with
  | nil => simp
  | cons first above =>
      by_cases habove : above = loc
      · by_cases hfirst : first = oldName <;> simp [habove, hfirst]
      · simp [habove]

theorem names_carry (tree : Tree) (oldName newName : Name) (loc : Location) :
    (tree.carry (oldName :: loc) (newName :: loc)).names loc =
      (tree.names loc).map fun name => if name = oldName then newName else name := by
  rw [names_eq, names_eq, entriesIn_carry, List.map_map, List.map_map]
  refine List.map_congr_left ?_
  rintro ⟨name, entry⟩ _
  by_cases hsame : name = oldName <;> simp [hsame]

end SchemaLedger.Files.Tree
