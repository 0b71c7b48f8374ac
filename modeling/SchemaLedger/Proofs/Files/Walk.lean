import SchemaLedger.Files.Answer
import SchemaLedger.Proofs.Path

/-! # Walks through directories

A walk that ends in a directory has passed through directories only. Whatever moves follow, they
are made from there; and the walk stays what it is as long as directories and links do. -/

namespace SchemaLedger.Files.Tree

open SchemaLedger.Path (Step)

/-- Walks by the moves that they make. The number bounds the links that are followed. -/
inductive Goes (tree : Tree) : Nat → Location → List Step → Location → Prop
  | here {n here} (h : tree.isDirectory here = true) : Goes tree n here [] here
  | stay {n here rest loc} (walk : Goes tree n here rest loc) :
    Goes tree n here (.stay :: rest) loc
  | up {n here rest loc} (h : tree.isDirectory here = true) (walk : Goes tree n here.tail rest loc) :
    Goes tree n here (.up :: rest) loc
  | down {n here name rest loc} (h : tree.isDirectory here = true)
      (short : name.length ≤ nameLimit) (walk : Goes tree n (name :: here) rest loc) :
    Goes tree n here (.down name :: rest) loc
  | link {n here name target rest loc} (h : tree.isDirectory here = true)
      (short : name.length ≤ nameLimit) (found : tree.get? (name :: here) = some (.link target))
      (walk : Goes tree n (if target.isAbsolute then [] else here) (route target ++ rest) loc) :
    Goes tree (n + 1) here (.down name :: rest) loc

variable {tree tree' : Tree} {n : Nat} {here loc mid : Location} {steps front back : List Step}
variable {name : Name}

/-! ## Single moves -/

theorem isDirectory_iff : tree.isDirectory loc = true ↔ tree.get? loc = some .directory := by
  simp [isDirectory]

@[simp] theorem walk_nil : tree.walk n here [] = .ok here := by
  cases n <;> rfl

theorem walk_stay (h : tree.isDirectory here = true) (rest : List Step) :
    tree.walk n here (.stay :: rest) = tree.walk n here rest := by
  cases n <;> simp [walk, walkBy, h]

theorem walk_up (h : tree.isDirectory here = true) (rest : List Step) :
    tree.walk n here (.up :: rest) = tree.walk n here.tail rest := by
  cases n <;> simp [walk, walkBy, h]

theorem walk_down (h : tree.isDirectory here = true) (short : name.length ≤ nameLimit)
    {entry : Entry} (found : tree.get? (name :: here) = some entry)
    (unlinked : ∀ target, entry ≠ .link target) (rest : List Step) :
    tree.walk n here (.down name :: rest) = tree.walk n (name :: here) rest := by
  cases entry with
  | link target => exact absurd rfl (unlinked target)
  | _ => cases n <;> simp [walk, walkBy, h, Nat.not_lt.mpr short, found]

theorem walk_link (h : tree.isDirectory here = true) (short : name.length ≤ nameLimit)
    {target : Path} (found : tree.get? (name :: here) = some (.link target)) (rest : List Step) :
    tree.walk (n + 1) here (.down name :: rest) =
      tree.walk n (if target.isAbsolute then [] else here) (route target ++ rest) := by
  simp [walk, walkBy, h, Nat.not_lt.mpr short, found]

/-! ## Derivations and walks -/

namespace Goes

theorem starts (h : Goes tree n here steps loc) : tree.isDirectory here = true := by
  induction h with
  | here h => exact h
  | stay _ ih => exact ih
  | up h _ _ => exact h
  | down h _ _ _ => exact h
  | link h _ _ _ _ => exact h

theorem ends (h : Goes tree n here steps loc) : tree.isDirectory loc = true := by
  induction h with
  | here h => exact h
  | stay _ ih => exact ih
  | up _ _ ih => exact ih
  | down _ _ _ ih => exact ih
  | link _ _ _ _ ih => exact ih

/-- What comes after a walk through directories goes on from where that ends. -/
theorem walk_append (h : Goes tree n here front mid) :
    ∃ k, ∀ back, tree.walk n here (front ++ back) = tree.walk k mid back := by
  induction h with
  | @here n here _ => exact ⟨n, fun _ => rfl⟩
  | stay walk ih =>
      obtain ⟨k, hk⟩ := ih
      exact ⟨k, fun back => (walk_stay walk.starts _).trans (hk back)⟩
  | up h _ ih =>
      obtain ⟨k, hk⟩ := ih
      exact ⟨k, fun back => (walk_up h _).trans (hk back)⟩
  | down h short walk ih =>
      obtain ⟨k, hk⟩ := ih
      have hfound := isDirectory_iff.mp walk.starts
      exact ⟨k, fun back => (walk_down h short hfound nofun _).trans (hk back)⟩
  | link h short found _ ih =>
      obtain ⟨k, hk⟩ := ih
      refine ⟨k, fun back => ?_⟩
      rw [List.cons_append, walk_link h short found, ← List.append_assoc]
      exact hk back

theorem walk_eq (h : Goes tree n here steps loc) : tree.walk n here steps = .ok loc := by
  obtain ⟨k, hk⟩ := h.walk_append
  have hnil := hk []
  rwa [List.append_nil, walk_nil] at hnil

theorem unique (h : Goes tree n here steps loc) (h' : Goes tree n here steps mid) : loc = mid :=
  Except.ok.inj (h.walk_eq.symm.trans h'.walk_eq)

theorem split (h : Goes tree n here steps loc) (heq : steps = front ++ back) :
    ∃ mid k, Goes tree n here front mid ∧ Goes tree k mid back loc := by
  induction h generalizing front with
  | @here n here h =>
      obtain ⟨rfl, rfl⟩ := List.append_eq_nil_iff.mp heq.symm
      exact ⟨here, n, .here h, .here h⟩
  | @stay n here rest loc walk ih =>
      rcases List.cons_eq_append_iff.mp heq with ⟨rfl, rfl⟩ | ⟨front, rfl, rfl⟩
      · exact ⟨here, n, .here walk.starts, walk.stay⟩
      · obtain ⟨mid, k, hfront, hback⟩ := ih rfl
        exact ⟨mid, k, hfront.stay, hback⟩
  | @up n here rest loc h walk ih =>
      rcases List.cons_eq_append_iff.mp heq with ⟨rfl, rfl⟩ | ⟨front, rfl, rfl⟩
      · exact ⟨here, n, .here h, walk.up h⟩
      · obtain ⟨mid, k, hfront, hback⟩ := ih rfl
        exact ⟨mid, k, hfront.up h, hback⟩
  | @down n here name rest loc h short walk ih =>
      rcases List.cons_eq_append_iff.mp heq with ⟨rfl, rfl⟩ | ⟨front, rfl, rfl⟩
      · exact ⟨here, n, .here h, walk.down h short⟩
      · obtain ⟨mid, k, hfront, hback⟩ := ih rfl
        exact ⟨mid, k, hfront.down h short, hback⟩
  | @link n here name target rest loc h short found walk ih =>
      rcases List.cons_eq_append_iff.mp heq with ⟨rfl, rfl⟩ | ⟨front, rfl, rfl⟩
      · exact ⟨here, n + 1, .here h, walk.link h short found⟩
      · obtain ⟨mid, k, hfront, hback⟩ := ih (List.append_assoc ..).symm
        exact ⟨mid, k, hfront.link h short found, hback⟩

theorem of_stays (h : Goes tree n here steps loc) (stays : ∀ step ∈ steps, step = .stay) :
    loc = here := by
  induction h with
  | here _ => rfl
  | stay _ ih => exact ih fun step hstep => stays step (List.mem_cons_of_mem _ hstep)
  | up _ _ _ => exact absurd (stays _ List.mem_cons_self) (by simp)
  | down _ _ _ _ => exact absurd (stays _ List.mem_cons_self) (by simp)
  | link _ _ _ _ _ => exact absurd (stays _ List.mem_cons_self) (by simp)

end Goes

theorem goes_of_walkBy {follow : Location → List Step → Except IoError Location}
    (hdir : tree.isDirectory loc = true)
    (hfollow : ∀ here steps, follow here steps = .ok loc →
      ∃ k, n = k + 1 ∧ Goes tree k here steps loc)
    (h : tree.walkBy follow here steps = .ok loc) : Goes tree n here steps loc := by
  induction steps generalizing here with
  | nil =>
      cases h
      exact .here hdir
  | cons step rest ih =>
      rw [walkBy.eq_def] at h
      dsimp only at h
      split at h
      · next hhere =>
          cases step with
          | stay => exact (ih h).stay
          | up => exact (ih h).up hhere
          | down name =>
              dsimp only at h
              split at h
              · cases h
              · next hshort =>
                  have hshort : name.length ≤ nameLimit := Nat.le_of_not_lt hshort
                  split at h
                  · cases h
                  · next found =>
                      obtain ⟨k, rfl, hwalk⟩ := hfollow _ _ h
                      exact hwalk.link hhere hshort found
                  · exact (ih h).down hhere hshort
      · cases h

/-- Every walk to a directory has a derivation. -/
theorem goes_of_walk (hdir : tree.isDirectory loc = true) (h : tree.walk n here steps = .ok loc) :
    Goes tree n here steps loc := by
  induction n generalizing here steps with
  | zero =>
      refine goes_of_walkBy hdir ?_ h
      intro _ _ hfollow
      cases hfollow
  | succ n ih => exact goes_of_walkBy hdir (fun _ _ hfollow => ⟨n, rfl, ih hfollow⟩) h

theorem walkBy_stop {follow : Location → List Step → Except IoError Location}
    (hfollow : ∀ here steps, follow here (steps ++ [.stay]) = .ok loc →
      tree.isDirectory loc = true)
    (h : tree.walkBy follow here (steps ++ [.stay]) = .ok loc) : tree.isDirectory loc = true := by
  induction steps generalizing here with
  | nil =>
      rw [List.nil_append, walkBy.eq_def] at h
      dsimp only at h
      split at h
      · next hhere =>
          cases h
          exact hhere
      · cases h
  | cons step rest ih =>
      rw [List.cons_append, walkBy.eq_def] at h
      dsimp only at h
      split at h
      · cases step with
        | stay => exact ih h
        | up => exact ih h
        | down name =>
            dsimp only at h
            split at h
            · cases h
            · split at h
              · cases h
              · rw [← List.append_assoc] at h
                exact hfollow _ _ h
              · exact ih h
      · cases h

/-- A walk that stays at its end ends in a directory. -/
theorem walk_stop (h : tree.walk n here (steps ++ [.stay]) = .ok loc) :
    tree.isDirectory loc = true := by
  induction n generalizing here steps with
  | zero =>
      refine walkBy_stop ?_ h
      intro _ _ hfollow
      cases hfollow
  | succ n ih => exact walkBy_stop (fun _ _ hfollow => ih hfollow) h

/-! ## Changes that walks survive -/

/-- Directories and links are where they were. -/
structure Keeps (tree tree' : Tree) : Prop where
  workDir : tree'.workDir = tree.workDir
  directory : ∀ loc, tree.get? loc = some .directory → tree'.get? loc = some .directory
  link : ∀ loc target, tree.get? loc = some (.link target) → tree'.get? loc = some (.link target)

theorem Keeps.refl (tree : Tree) : tree.Keeps tree := ⟨rfl, fun _ h => h, fun _ _ h => h⟩

theorem Keeps.trans {tree'' : Tree} (h : tree.Keeps tree') (h' : tree'.Keeps tree'') :
    tree.Keeps tree'' where
  workDir := h'.workDir.trans h.workDir
  directory := fun loc hloc => h'.directory loc (h.directory loc hloc)
  link := fun loc target hloc => h'.link loc target (h.link loc target hloc)

theorem Keeps.isDirectory (keeps : tree.Keeps tree') (h : tree.isDirectory loc = true) :
    tree'.isDirectory loc = true :=
  isDirectory_iff.mpr (keeps.directory loc (isDirectory_iff.mp h))

/-- Everything is where it was. -/
structure Extends (tree tree' : Tree) : Prop where
  workDir : tree'.workDir = tree.workDir
  found : ∀ loc entry, tree.get? loc = some entry → tree'.get? loc = some entry

theorem Extends.refl (tree : Tree) : tree.Extends tree := ⟨rfl, fun _ _ h => h⟩

theorem Extends.trans {tree'' : Tree} (h : tree.Extends tree') (h' : tree'.Extends tree'') :
    tree.Extends tree'' :=
  ⟨h'.workDir.trans h.workDir, fun loc entry hloc => h'.found loc entry (h.found loc entry hloc)⟩

theorem Extends.keeps (grown : tree.Extends tree') : tree.Keeps tree' :=
  ⟨grown.workDir, fun loc => grown.found loc _, fun loc _ => grown.found loc _⟩

theorem Goes.mono (keeps : tree.Keeps tree') (h : Goes tree n here steps loc) :
    Goes tree' n here steps loc := by
  induction h with
  | here h => exact .here (keeps.isDirectory h)
  | stay _ ih => exact ih.stay
  | up h _ ih => exact ih.up (keeps.isDirectory h)
  | down h short _ ih => exact ih.down (keeps.isDirectory h) short
  | link h short found _ ih => exact ih.link (keeps.isDirectory h) short (keeps.link _ _ found)

/-! ## Where paths lead -/

/-- A path, whatever its length, leads to a directory. -/
def Leads (tree : Tree) (path : Path) (loc : Location) : Prop :=
  Goes tree linkLimit (tree.start path) path.steps loc

/-- A path names a directory. -/
structure Denotes (tree : Tree) (path : Path) (loc : Location) : Prop where
  spelled : spelled path = .ok ()
  leads : tree.Leads path loc

variable {path : Path}

theorem Leads.isDirectory (h : tree.Leads path loc) : tree.isDirectory loc = true := h.ends

theorem Leads.parent {path outer : Path} (h : tree.Leads path loc)
    (hparent : path.parent? = some outer) : ∃ mid, tree.Leads outer mid := by
  obtain ⟨⟨more, hsteps⟩, habsolute⟩ := Path.steps_parent? hparent
  obtain ⟨mid, _, hfront, _⟩ := Goes.split h hsteps
  have hstart : tree.start outer = tree.start path := by rw [start, start, habsolute]
  rw [← hstart] at hfront
  exact ⟨mid, hfront⟩

theorem Leads.mono (keeps : tree.Keeps tree') (h : tree.Leads path loc) : tree'.Leads path loc := by
  have hstart : tree'.start path = tree.start path := by rw [start, start, keeps.workDir]
  rw [Leads, hstart]
  exact Goes.mono keeps h

theorem Denotes.mono (keeps : tree.Keeps tree') (h : tree.Denotes path loc) : tree'.Denotes path loc :=
  ⟨h.spelled, h.leads.mono keeps⟩

theorem Denotes.unique (h : tree.Denotes path loc) (h' : tree.Denotes path mid) : loc = mid :=
  Goes.unique h.leads h'.leads

theorem Denotes.present (h : tree.Denotes path loc) : path.octets ≠ [] := by
  intro hnone
  have hspelled := h.spelled
  simp [Tree.spelled, hnone] at hspelled

theorem denotes_iff : tree.Denotes path loc ↔
    tree.resolve path = .ok loc ∧ tree.isDirectory loc = true := by
  constructor
  · intro h
    refine ⟨?_, h.leads.isDirectory⟩
    obtain ⟨k, hk⟩ := Goes.walk_append h.leads
    rw [resolve, h.spelled, route]
    refine (hk _).trans ?_
    split
    · rw [walk_stay h.leads.isDirectory, walk_nil]
    · rw [walk_nil]
  · rintro ⟨hresolve, hdir⟩
    rw [resolve] at hresolve
    cases hspelled : Tree.spelled path with
    | error error =>
        rw [hspelled] at hresolve
        cases hresolve
    | ok =>
        rw [hspelled] at hresolve
        obtain ⟨mid, k, hfront, hback⟩ := (goes_of_walk hdir hresolve).split rfl
        have hstays : ∀ step ∈ (if path.endsInSlash then [Step.stay] else []), step = .stay := by
          split <;> simp
        have hmid : loc = mid := hback.of_stays hstays
        exact ⟨hspelled, hmid ▸ hfront⟩

end SchemaLedger.Files.Tree
