import SchemaLedger.Proofs.Files.Tree

/-! # Calls on the entries of a directory

What calls do with a path that leads to an entry of a directory, and with a path that leads to a
directory itself. -/

namespace SchemaLedger.Files

structure Fits (name : Name) : Prop where
  plain : Path.Plain name
  nonzero : 0 ∉ name
  short : name.length ≤ Tree.nameLimit

instance (name : Name) : Decidable (Fits name) :=
  decidable_of_iff ((Path.slash ∉ name ∧ name ≠ [] ∧ name ≠ Path.dot ∧ name ≠ Path.dotDot) ∧
      0 ∉ name ∧ name.length ≤ Tree.nameLimit)
    ⟨fun h => ⟨h.1, h.2.1, h.2.2⟩, fun h => ⟨h.plain, h.nonzero, h.short⟩⟩

namespace Tree

open SchemaLedger.Path (Step)

variable {tree tree' : Tree} {path dir : Path} {loc : Location} {name name' : Name}

theorem spelled_iff : spelled path = .ok () ↔
    0 ∉ path.octets ∧ path.octets ≠ [] ∧ path.octets.length < pathLimit := by
  rw [spelled]
  by_cases hzero : 0 ∈ path.octets
  · simp [hzero]
  by_cases hnone : path.octets = []
  · simp [hnone]
  by_cases hlong : pathLimit ≤ path.octets.length
  · simp [hzero, hnone, hlong, Nat.not_lt.mpr hlong]
  · simp [hzero, hnone, Nat.lt_of_not_le hlong]

/-- Only its length can be wrong with the path of an entry. -/
theorem spelled_join (h : spelled dir = .ok ()) (fits : Fits name) :
    spelled (dir.join name) = .ok () ↔ (dir.join name).octets.length < pathLimit := by
  obtain ⟨hzero, hnone, _⟩ := spelled_iff.mp h
  obtain ⟨front, hjoin, hfront⟩ := Path.join_octets (p := dir) fits.plain
  have hslash : (0 : UInt8) ≠ Path.slash := by decide
  have hnonzero : 0 ∉ front := by
    rcases hfront with ⟨rfl, _⟩ | ⟨base, rfl, hbase⟩
    · exact List.not_mem_nil
    · rcases hbase with hbase | hbase <;> simp_all
  have hpresent : front ++ name ≠ [] :=
    fun hnil => fits.plain.2.1 (List.append_eq_nil_iff.mp hnil).2
  rw [spelled_iff, hjoin]
  simp only [List.mem_append, hnonzero, fits.nonzero, or_self, not_false_eq_true, ne_eq, hpresent,
    true_and]

/-- A path that leads to an entry of a directory. -/
def Enters (tree : Tree) (path : Path) (loc : Location) (name : Name) : Prop :=
  path.endsInSlash = false ∧ ∃ front, path.steps = front ++ [.down name] ∧
    Goes tree linkLimit (tree.start path) front loc

theorem endsInSlash_of_plain {front : Octets} (plain : Path.Plain name)
    (h : path.octets = front ++ name) : path.endsInSlash = false := by
  have hlast : name.getLast? ≠ some Path.slash :=
    fun hlast => plain.1 (List.mem_of_getLast? hlast)
  rw [Path.endsInSlash, h, List.getLast?_append_of_ne_nil _ plain.2.1]
  simpa using hlast

theorem Leads.enters (h : tree.Leads dir loc) (plain : Path.Plain name) :
    tree.Enters (dir.join name) loc name := by
  obtain ⟨front, hjoin, _⟩ := Path.join_octets (p := dir) plain
  refine ⟨endsInSlash_of_plain plain hjoin, dir.steps, Path.steps_join dir plain, ?_⟩
  have hstart : tree.start (dir.join name) = tree.start dir := by
    rw [start, start, Path.isAbsolute_join dir plain]
  rw [hstart]
  exact h

/-- What replaces the last name of a path leads to an entry of the same directory. -/
theorem Denotes.enters_sibling (h : tree.Denotes dir loc) (plain : Path.Plain name)
    (plain' : Path.Plain name') : tree.Enters ((dir.join name).sibling name') loc name' := by
  obtain ⟨q, stays, hparent, hsteps, hstays, habsolute⟩ := Path.parent?_join plain h.present
  have hleads : tree.Leads q loc := by
    obtain ⟨mid, k, hfront, hback⟩ := Goes.split h.leads hsteps
    have hstart : tree.start q = tree.start dir := by rw [start, start, habsolute]
    rw [hback.of_stays hstays, Leads, hstart]
    exact hfront
  have hsibling : (dir.join name).sibling name' = q.join name' := by
    rw [Path.sibling, hparent, Option.getD_some]
  rw [hsibling]
  exact hleads.enters plain'

/-! ## Places of entries -/

theorem Enters.mono (keeps : tree.Keeps tree') (h : tree.Enters path loc name) :
    tree'.Enters path loc name := by
  obtain ⟨hends, front, hsteps, walk⟩ := h
  have hstart : tree'.start path = tree.start path := by rw [start, start, keeps.workDir]
  exact ⟨hends, front, hsteps, hstart ▸ walk.mono keeps⟩

theorem Enters.unique {loc' : Location} (h : tree.Enters path loc name)
    (h' : tree.Enters path loc' name') : loc = loc' ∧ name = name' := by
  obtain ⟨_, front, hsteps, walk⟩ := h
  obtain ⟨_, front', hsteps', walk'⟩ := h'
  obtain ⟨rfl, hlast⟩ := List.append_inj' (hsteps.symm.trans hsteps') rfl
  exact ⟨walk.unique walk', Step.down.inj (List.singleton_inj.mp hlast)⟩

theorem Enters.fits (h : tree.Enters path loc name) (hspelled : spelled path = .ok ())
    (short : name.length ≤ nameLimit) : Fits name := by
  obtain ⟨_, front, hsteps, _⟩ := h
  have hmem : Step.down name ∈ path.steps := by simp [hsteps]
  obtain ⟨hplain, hoctets⟩ := Path.plain_of_mem_steps hmem
  exact ⟨hplain, fun hzero => (spelled_iff.mp hspelled).1 (hoctets 0 hzero), short⟩

section Entry

variable (h : tree.Enters path loc name)

include h

theorem place_entry : tree.place path = (spelled path).bind fun _ =>
    if nameLimit < name.length then .error .nameTooLong else .ok (some (name :: loc)) := by
  obtain ⟨_, front, hsteps, walk⟩ := h
  rw [place]
  cases spelled path with
  | error error => rfl
  | ok =>
      have hwalk : tree.walk linkLimit (tree.start path) (path.steps.dropLast ++ [.stay]) =
          .ok loc := by
        obtain ⟨k, hk⟩ := walk.walk_append
        rw [hsteps, List.dropLast_concat, hk, walk_stay walk.ends, walk_nil]
      have hlast : path.steps.getLast? = some (.down name) := by rw [hsteps, List.getLast?_concat]
      simp only [hwalk, hlast, bind, Except.bind]

theorem resolve_entry (short : name.length ≤ nameLimit) {entry : Entry}
    (found : tree.get? (name :: loc) = some entry) (unlinked : ∀ target, entry ≠ .link target) :
    tree.resolve path = (spelled path).map fun _ => name :: loc := by
  obtain ⟨hends, front, hsteps, walk⟩ := h
  rw [resolve]
  cases spelled path with
  | error error => rfl
  | ok =>
      have hroute : route path = front ++ [.down name] := by
        rw [route, hends, hsteps]
        simp
      obtain ⟨k, hk⟩ := walk.walk_append
      have hwalk : tree.walk linkLimit (tree.start path) (route path) = .ok (name :: loc) := by
        rw [hroute, hk, walk_down walk.ends short found unlinked, walk_nil]
      exact hwalk

end Entry

/-! ## Reading -/

theorem read_file (h : tree.Enters path loc name) (short : name.length ≤ nameLimit)
    {content : Octets} (found : tree.get? (name :: loc) = some (.file content)) :
    tree.read path = (spelled path).map fun _ => content := by
  rw [read, resolve_entry h short found nofun]
  cases spelled path with
  | error error => rfl
  | ok => simp only [Except.map, bind, Except.bind, found]

theorem read_directory (h : tree.Enters path loc name) (short : name.length ≤ nameLimit)
    (found : tree.get? (name :: loc) = some .directory) (content : Octets) :
    tree.read path ≠ .ok content := by
  rw [read, resolve_entry h short found nofun]
  cases spelled path with
  | error error => exact nofun
  | ok =>
      simp only [Except.map, bind, Except.bind, found]
      exact nofun

theorem short_of_read (h : tree.Enters path loc name) {content : Octets}
    (hread : tree.read path = .ok content) : name.length ≤ nameLimit := by
  obtain ⟨hends, front, hsteps, walk⟩ := h
  have hroute : route path = front ++ [.down name] := by simp [route, hends, hsteps]
  obtain ⟨k, hk⟩ := walk.walk_append
  by_cases hshort : name.length ≤ nameLimit
  · exact hshort
  · exfalso
    have hlong : tree.walk k loc [.down name] = .error .nameTooLong := by
      cases k <;> simp [Tree.walk, walkBy, walk.ends, Nat.lt_of_not_le hshort]
    rw [read, resolve, hroute, hk, hlong] at hread
    cases hspelled : spelled path <;> rw [hspelled] at hread <;> cases hread

theorem eq_of_read_file (h : tree.Enters path loc name) {content bytes : Octets}
    (found : tree.get? (name :: loc) = some (.file content)) (hread : tree.read path = .ok bytes) :
    bytes = content ∧ spelled path = .ok () := by
  rw [read_file h (short_of_read h hread) found] at hread
  cases hspelled : spelled path with
  | error error =>
      rw [hspelled] at hread
      cases hread
  | ok =>
      rw [hspelled] at hread
      exact ⟨(Except.ok.inj hread).symm, rfl⟩

/-! ## Creating -/

theorem create_entry (h : tree.Enters path loc name) (created : tree.create path = .ok tree') :
    spelled path = .ok () ∧ name.length ≤ nameLimit ∧ tree.get? (name :: loc) = none ∧
      tree' = tree.add (name :: loc) (.file []) := by
  rw [create, place_entry h, h.1] at created
  cases hspelled : spelled path with
  | error error =>
      rw [hspelled] at created
      cases created
  | ok =>
      rw [hspelled] at created
      simp only [Except.bind, bind] at created
      by_cases hlong : nameLimit < name.length
      · simp [hlong] at created
      rw [if_neg hlong] at created
      cases hfound : tree.get? (name :: loc) with
      | some entry => simp [hfound] at created
      | none =>
          refine ⟨rfl, Nat.le_of_not_lt hlong, rfl, ?_⟩
          rw [← put_fresh hfound]
          simpa [hfound] using created.symm

theorem fill_added (h : tree.Enters path loc name) (hspelled : spelled path = .ok ())
    (short : name.length ≤ nameLimit) (fresh : tree.get? (name :: loc) = none)
    (part content : Octets) :
    (tree.add (name :: loc) (.file part)).fill path content =
      .ok (tree.add (name :: loc) (.file content)) := by
  have hfound : (tree.add (name :: loc) (.file part)).get? (name :: loc) = some (.file part) :=
    get?_add_self fresh
  rw [fill, resolve_entry (h.mono (keeps_add tree _ _)) short hfound nofun, hspelled]
  simp only [Except.map, bind, Except.bind, hfound]
  rw [put_added fresh]

/-! ## Renaming -/

theorem rename_eq (proper : tree.Proper) {source target : Path} (h : tree.Enters source loc name)
    (h' : tree.Enters target loc name') (hspelled : spelled source = .ok ())
    (hspelled' : spelled target = .ok ()) (short : name.length ≤ nameLimit)
    (short' : name'.length ≤ nameLimit) {entry : Entry}
    (found : tree.get? (name :: loc) = some entry) (leaf : entry ≠ .directory)
    (fresh : tree.get? (name' :: loc) = none) :
    tree.rename source target = .ok (tree.carry (name :: loc) (name' :: loc)) := by
  have hne : name ≠ name' := by
    rintro rfl
    rw [found] at fresh
    cases fresh
  have hmay : tree.mayReplace (name :: loc) (name' :: loc) entry = .ok () := by
    cases entry with
    | directory => exact absurd rfl leaf
    | _ => simp [mayReplace, fresh]
  have hleaf : tree.get? (name :: loc) ≠ some .directory := by
    rw [found]
    exact fun heq => leaf (Option.some.inj heq)
  rw [rename, place_entry h, place_entry h', hspelled, hspelled']
  simp only [Except.bind, bind, Nat.not_lt.mpr short, Nat.not_lt.mpr short', if_false, found,
    List.cons.injEq, hne, false_and, hmay]
  rw [remove_fresh proper fresh, move_leaf proper hleaf]

theorem rename_entry (proper : tree.Proper) {source target : Path}
    (h : tree.Enters source loc name) (h' : tree.Enters target loc name') {entry : Entry}
    (found : tree.get? (name :: loc) = some entry) (leaf : entry ≠ .directory)
    (fresh : tree.get? (name' :: loc) = none) (renamed : tree.rename source target = .ok tree') :
    spelled target = .ok () ∧ name'.length ≤ nameLimit ∧
      tree' = tree.carry (name :: loc) (name' :: loc) := by
  have hplaces := renamed
  rw [rename, place_entry h, place_entry h'] at hplaces
  cases hsource : spelled source with
  | error error =>
      rw [hsource] at hplaces
      cases hplaces
  | ok =>
      by_cases hlong : nameLimit < name.length
      · simp [hsource, hlong, Except.bind, bind] at hplaces
      cases htarget : spelled target with
      | error error => simp [hsource, htarget, hlong, Except.bind, bind] at hplaces
      | ok =>
          by_cases hlong' : nameLimit < name'.length
          · simp [hsource, htarget, hlong, hlong', Except.bind, bind] at hplaces
          have hshort' := Nat.le_of_not_lt hlong'
          refine ⟨rfl, hshort', ?_⟩
          rw [rename_eq proper h h' hsource htarget (Nat.le_of_not_lt hlong) hshort' found leaf
            fresh] at renamed
          exact (Except.ok.inj renamed).symm

/-- A renaming that changes no name changes nothing. -/
theorem rename_same {source target : Path} (h : tree.Enters source loc name)
    (h' : tree.Enters target loc name) (renamed : tree.rename source target = .ok tree') :
    tree' = tree := by
  rw [rename, place_entry h, place_entry h'] at renamed
  by_cases hlong : nameLimit < name.length
  · cases hsource : spelled source <;> simp [hsource, hlong, Except.bind, bind] at renamed
  cases hsource : spelled source with
  | error error => simp [hsource, Except.bind, bind] at renamed
  | ok =>
      cases htarget : spelled target with
      | error error => simp [hsource, htarget, hlong, Except.bind, bind] at renamed
      | ok =>
          simp only [hsource, htarget, hlong, Except.bind, bind, if_false, if_true] at renamed
          split at renamed
          · cases renamed
          · exact (Except.ok.inj renamed).symm

/-! ## Making directories -/

/-- A path with a place for an entry leads to the directory around it. -/
theorem place_spec (h : tree.place path = .ok (some loc)) :
    ∃ front name parent, path.steps = front ++ [.down name] ∧ loc = name :: parent ∧ Fits name ∧
      tree.walk linkLimit (tree.start path) (front ++ [.stay]) = .ok parent := by
  rw [place] at h
  cases hspelled : spelled path with
  | error error =>
      rw [hspelled] at h
      cases h
  | ok =>
      simp only [hspelled, bind, Except.bind] at h
      cases hwalk : tree.walk linkLimit (tree.start path) (path.steps.dropLast ++ [.stay]) with
      | error error =>
          rw [hwalk] at h
          cases h
      | ok parent =>
          rw [hwalk] at h
          dsimp only at h
          split at h
          · next name hlast =>
              split at h
              · cases h
              · next hshort =>
                  cases h
                  obtain ⟨front, hsteps⟩ := List.getLast?_eq_some_iff.mp hlast
                  rw [hsteps, List.dropLast_concat] at hwalk
                  have hmem : Step.down name ∈ path.steps := by simp [hsteps]
                  obtain ⟨hplain, hoctets⟩ := Path.plain_of_mem_steps hmem
                  have hnonzero : 0 ∉ name :=
                    fun hzero => (spelled_iff.mp hspelled).1 (hoctets 0 hzero)
                  exact ⟨front, name, parent, hsteps, rfl,
                    ⟨hplain, hnonzero, Nat.le_of_not_lt hshort⟩, hwalk⟩
          · cases h

theorem makeDir_spec (h : tree.makeDir path = .ok tree') :
    ∃ name parent, Fits name ∧ tree.isDirectory parent = true ∧ tree.get? (name :: parent) = none ∧
      tree' = tree.add (name :: parent) .directory := by
  rw [makeDir] at h
  cases hplace : tree.place path with
  | error error =>
      rw [hplace] at h
      cases h
  | ok place =>
      rw [hplace] at h
      cases place with
      | none => cases h
      | some loc =>
          obtain ⟨front, name, parent, _, rfl, hfits, hwalk⟩ := place_spec hplace
          cases hfound : tree.get? (name :: parent) with
          | some entry => simp [hfound, bind, Except.bind] at h
          | none =>
              refine ⟨name, parent, hfits, walk_stop hwalk, hfound, ?_⟩
              rw [← put_fresh hfound]
              simpa [hfound, bind, Except.bind] using h.symm

theorem enters_of_create (h : tree.create path = .ok tree') :
    ∃ loc name, tree.Enters path loc name := by
  rw [create] at h
  cases hplace : tree.place path with
  | error error =>
      rw [hplace] at h
      cases h
  | ok place =>
      rw [hplace] at h
      cases place with
      | none => cases h
      | some loc =>
          obtain ⟨front, name, parent, hsteps, rfl, _, hwalk⟩ := place_spec hplace
          by_cases hends : path.endsInSlash = true
          · simp [hends, bind, Except.bind] at h
          · obtain ⟨mid, k, hfront, hback⟩ := (goes_of_walk (walk_stop hwalk) hwalk).split rfl
            have hmid : parent = mid := hback.of_stays fun _ => List.mem_singleton.mp
            exact ⟨parent, name, Bool.eq_false_iff.mpr hends, front, hsteps, hmid ▸ hfront⟩

theorem makeDir_of_leads (h : tree.Leads path loc) : tree.makeDir path ≠ .ok tree' := by
  intro hmade
  rw [makeDir] at hmade
  cases hplace : tree.place path with
  | error error =>
      rw [hplace] at hmade
      cases hmade
  | ok place =>
      rw [hplace] at hmade
      cases place with
      | none => cases hmade
      | some loc =>
          obtain ⟨front, name, parent, hsteps, rfl, _, hwalk⟩ := place_spec hplace
          obtain ⟨mid, k, hfront, hback⟩ := Goes.split h hsteps
          obtain ⟨k', hk'⟩ := hfront.walk_append
          rw [hk', walk_stay hfront.ends, walk_nil] at hwalk
          cases hwalk
          have hfound : (tree.get? (name :: parent)).isSome := by
            cases hback with
            | down _ _ walk => rw [isDirectory_iff.mp walk.starts]; rfl
            | link _ _ found _ => rw [found]; rfl
          simp [hfound, bind, Except.bind] at hmade

end Tree

end SchemaLedger.Files
