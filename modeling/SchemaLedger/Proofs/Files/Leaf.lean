import SchemaLedger.Proofs.Files.Entry

/-! # Entries that no walk to a directory passes

A file, or a link that leads to a file. Giving such an entry another name changes no walk to a
directory, although a link on the way is no longer where it was. -/

namespace SchemaLedger.Files.Tree

open SchemaLedger.Path (Step)

variable {tree tree' : Tree} {n : Nat} {here loc mid : Location} {steps : List Step}
variable {name newName other : Name} {dir : Path}

/-! ## Walks that may follow more links -/

theorem walkBy_mono {follow follow' : Location → List Step → Except IoError Location}
    (grown : tree.Extends tree')
    (hfollow : ∀ here steps, follow here steps = .ok loc → follow' here steps = .ok loc)
    (h : tree.walkBy follow here steps = .ok loc) : tree'.walkBy follow' here steps = .ok loc := by
  induction steps generalizing here with
  | nil => exact h
  | cons step rest ih =>
      rw [walkBy.eq_def] at h ⊢
      dsimp only at h ⊢
      split at h
      · next hhere =>
          rw [if_pos (grown.keeps.isDirectory hhere)]
          cases step with
          | stay => exact ih h
          | up => exact ih h
          | down name =>
              dsimp only at h ⊢
              split at h
              · cases h
              · next hshort =>
                  rw [if_neg hshort]
                  split at h
                  · cases h
                  · next hfound =>
                      rw [grown.found _ _ hfound]
                      exact hfollow _ _ h
                  · next entry hunlinked hfound =>
                      rw [grown.found _ _ hfound]
                      cases entry with
                      | link target => exact absurd rfl (hunlinked target)
                      | _ => exact ih h
      · cases h

theorem walk_succ (h : tree.walk n here steps = .ok loc) :
    tree.walk (n + 1) here steps = .ok loc := by
  induction n generalizing here steps with
  | zero => exact walkBy_mono (.refl tree) (fun _ _ hfollow => by cases hfollow) h
  | succ n ih => exact walkBy_mono (.refl tree) (fun _ _ hfollow => ih hfollow) h

theorem walk_mono {m : Nat} (hle : n ≤ m) (h : tree.walk n here steps = .ok loc) :
    tree.walk m here steps = .ok loc := by
  induction hle with
  | refl => exact h
  | step _ ih => exact walk_succ ih

/-- However many links are followed, a walk has one end. -/
theorem walk_unique {m : Nat} (h : tree.walk n here steps = .ok loc)
    (h' : tree.walk m here steps = .ok mid) : loc = mid := by
  have hn := walk_mono (Nat.le_max_left n m) h
  have hm := walk_mono (Nat.le_max_right n m) h'
  exact Except.ok.inj (hn.symm.trans hm)

/-! ## Trees that grow -/

section Extends

variable {path : Path} (grown : tree.Extends tree')

include grown

theorem Extends.walk (h : tree.walk n here steps = .ok loc) : tree'.walk n here steps = .ok loc := by
  induction n generalizing here steps with
  | zero => exact walkBy_mono grown (fun _ _ hfollow => hfollow) h
  | succ n ih => exact walkBy_mono grown (fun _ _ hfollow => ih hfollow) h

theorem Extends.resolve (h : tree.resolve path = .ok loc) : tree'.resolve path = .ok loc := by
  have hstart : tree'.start path = tree.start path := by rw [start, start, grown.workDir]
  rw [Tree.resolve] at h ⊢
  cases hspelled : spelled path with
  | error error =>
      rw [hspelled] at h
      cases h
  | ok =>
      rw [hspelled] at h
      rw [hstart]
      exact grown.walk h

theorem Extends.read {content : Octets} (h : tree.read path = .ok content) :
    tree'.read path = .ok content := by
  rw [Tree.read] at h ⊢
  cases hresolve : tree.resolve path with
  | error error =>
      rw [hresolve] at h
      cases h
  | ok loc =>
      rw [hresolve] at h
      rw [grown.resolve hresolve]
      simp only [bind, Except.bind] at h ⊢
      split at h
      · next hfound =>
          rw [grown.found _ _ hfound]
          exact h
      · cases h
      · cases h

end Extends

/-! ## Leaves -/

/-- An entry that is no directory and does not lead to one either. -/
structure Leaf (tree : Tree) (loc : Location) (name : Name) : Prop where
  undivided : tree.get? (name :: loc) ≠ some .directory
  unlinked : ∀ target, tree.get? (name :: loc) = some (.link target) → ∀ n mid,
    ¬ Goes tree n (if target.isAbsolute then [] else loc) (route target) mid

theorem Leaf.of_fresh (fresh : tree.get? (name :: loc) = none) : tree.Leaf loc name := by
  constructor <;> simp [fresh]

theorem Leaf.of_file {content : Octets} (h : tree.get? (name :: loc) = some (.file content)) :
    tree.Leaf loc name := by
  constructor <;> simp [h]

/-- Nothing in a tree has become a directory or a link. -/
theorem Leaf.mono (h : tree.Leaf loc name) (keeps : tree'.Keeps tree) : tree'.Leaf loc name := by
  refine ⟨fun hfound => h.undivided (keeps.directory _ hfound), ?_⟩
  intro target hfound n mid walk
  exact h.unlinked target (keeps.link _ _ hfound) n mid (walk.mono keeps)

theorem Leaf.of_read (h : tree.Enters (dir.join name) loc name) (short : name.length ≤ nameLimit)
    {content : Octets} (hread : tree.read (dir.join name) = .ok content) : tree.Leaf loc name := by
  refine ⟨fun hfound => read_directory h short hfound content hread, ?_⟩
  intro target hfound n mid hwalk
  obtain ⟨hends, front, hsteps, hfront⟩ := h
  have hroute : route (dir.join name) = front ++ [.down name] := by simp [route, hends, hsteps]
  obtain ⟨k, hk⟩ := hfront.walk_append
  rw [read, resolve, hroute, hk] at hread
  cases hspelled : spelled (dir.join name) with
  | error error =>
      rw [hspelled] at hread
      cases hread
  | ok =>
      rw [hspelled] at hread
      cases k with
      | zero =>
          simp [walk, walkBy, hfront.ends, Nat.not_lt.mpr short, hfound, bind, Except.bind] at hread
      | succ k =>
          rw [walk_link hfront.ends short hfound, List.append_nil] at hread
          cases hend : tree.walk k (if target.isAbsolute then [] else loc) (route target) with
          | error error =>
              rw [hend] at hread
              cases hread
          | ok last =>
              cases walk_unique hend hwalk.walk_eq
              rw [hend] at hread
              have hdir := isDirectory_iff.mp hwalk.ends
              simp [hdir, bind, Except.bind] at hread

theorem keeps_of_add (proper : tree.Proper) (content : Octets) :
    (tree.add loc (.file content)).Keeps tree := by
  have hold : ∀ loc' entry, (∀ c, entry ≠ .file c) →
      (tree.add loc (.file content)).get? loc' = some entry → tree.get? loc' = some entry := by
    intro loc' entry hother hfound
    by_cases hroot : loc' = []
    · rw [hroot] at hfound ⊢
      exact hfound
    · rcases List.mem_append.mp (mem_of_get? hroot hfound) with hmem | hmem
      · exact proper.get?_of_mem hmem
      · cases List.mem_singleton.mp hmem
        exact absurd rfl (hother content)
  exact ⟨rfl, fun _ => hold _ _ nofun, fun _ _ => hold _ _ nofun⟩

/-! ## Renaming a leaf -/

section Carry

variable (proper : tree.Proper) (leaf : tree.Leaf loc name)

include proper

/-- What is somewhere after a renaming has been renamed, or it was there before. -/
theorem get?_of_carry {entry : Entry}
    (h : (tree.carry (name :: loc) (newName :: loc)).get? here = some entry) :
    here = newName :: loc ∧ tree.get? (name :: loc) = some entry ∨
      here ≠ name :: loc ∧ tree.get? here = some entry := by
  by_cases hroot : here = []
  · rw [hroot] at h ⊢
    exact .inr ⟨nofun, h⟩
  · rcases mem_carry.mp (mem_of_get? hroot h) with ⟨hnew, hmem⟩ | ⟨hne, hmem⟩
    · exact .inl ⟨hnew, proper.get?_of_mem hmem⟩
    · exact .inr ⟨hne, proper.get?_of_mem hmem⟩

include leaf

omit proper in
/-- No walk to a directory follows a link that is a leaf. -/
theorem Leaf.not_followed {target : Path} {rest : List Step}
    (found : tree.get? (name :: loc) = some (.link target)) :
    ¬ Goes tree n (if target.isAbsolute then [] else loc) (route target ++ rest) mid := by
  intro hwalk
  obtain ⟨end', k, hfront, _⟩ := hwalk.split rfl
  exact leaf.unlinked target found _ _ hfront

/-- A walk after the renaming of a leaf is one before. -/
theorem Goes.of_carry (h : Goes (tree.carry (name :: loc) (newName :: loc)) n here steps mid) :
    Goes tree n here steps mid := by
  have hdir : ∀ {here}, (tree.carry (name :: loc) (newName :: loc)).isDirectory here = true →
      tree.isDirectory here = true := by
    intro here hhere
    rcases get?_of_carry proper (isDirectory_iff.mp hhere) with ⟨_, hfound⟩ | ⟨_, hfound⟩
    · exact absurd hfound leaf.undivided
    · exact isDirectory_iff.mpr hfound
  induction h with
  | here h => exact .here (hdir h)
  | stay _ ih => exact ih.stay
  | up h _ ih => exact ih.up (hdir h)
  | down h short _ ih => exact ih.down (hdir h) short
  | link h short found _ ih =>
      rcases get?_of_carry proper found with ⟨hnew, hfound⟩ | ⟨_, hfound⟩
      · cases hnew
        exact absurd ih (leaf.not_followed hfound)
      · exact ih.link (hdir h) short hfound

variable (fresh : tree.get? (newName :: loc) = none)

include fresh

theorem Goes.carry (h : Goes tree n here steps mid) :
    Goes (tree.carry (name :: loc) (newName :: loc)) n here steps mid := by
  have hdir : ∀ {here}, tree.isDirectory here = true →
      (tree.carry (name :: loc) (newName :: loc)).isDirectory here = true :=
    isDirectory_carry proper fresh leaf.undivided
  induction h with
  | here h => exact .here (hdir h)
  | stay _ ih => exact ih.stay
  | up h _ ih => exact ih.up (hdir h)
  | down h short _ ih => exact ih.down (hdir h) short
  | @link n here first target rest mid h short found walk ih =>
      by_cases hsame : first :: here = name :: loc
      · cases hsame
        exact absurd walk (leaf.not_followed found)
      · exact ih.link (hdir h) short (get?_carry proper fresh hsame found)

theorem Denotes.carry (h : tree.Denotes dir mid) :
    (tree.carry (name :: loc) (newName :: loc)).Denotes dir mid :=
  ⟨h.spelled, Goes.carry proper leaf fresh h.leads⟩

omit fresh

theorem Leaf.carry (h : tree.Leaf loc other) :
    (tree.carry (name :: loc) (newName :: loc)).Leaf loc other := by
  constructor
  · intro hfound
    rcases get?_of_carry proper hfound with ⟨_, hfound⟩ | ⟨_, hfound⟩
    · exact leaf.undivided hfound
    · exact h.undivided hfound
  · intro target hfound n mid hwalk
    have hwalk := Goes.of_carry proper leaf hwalk
    rcases get?_of_carry proper hfound with ⟨_, hfound⟩ | ⟨_, hfound⟩
    · exact leaf.unlinked target hfound n mid hwalk
    · exact h.unlinked target hfound n mid hwalk

end Carry

end SchemaLedger.Files.Tree
