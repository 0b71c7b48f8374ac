import SchemaLedger.Proofs.Apply.Rerun

/-! # What is pending

The migrations that are pending, told from the rows of a ledger and the files of a directory
without sorting or choosing any. Files may share an ID: they keep the order in which they came. -/

namespace SchemaLedger.Apply

/-! ## Lists that ascend -/

theorem mem_iff_of_filter {xs ys : List Migration}
    (same : ∀ id, xs.filter (·.id = id) = ys.filter (·.id = id)) (m : Migration) :
    m ∈ xs ↔ m ∈ ys := by
  have hm := congrArg (m ∈ ·) (same m.id)
  simpa using hm

theorem head_le {x m : Migration} {xs : List Migration}
    (ascending : (x :: xs).Pairwise fun a b => a.id ≤ b.id) (hm : m ∈ x :: xs) : x.id ≤ m.id := by
  rcases List.mem_cons.mp hm with rfl | hm
  · exact Nat.le_refl _
  · exact List.rel_of_pairwise_cons ascending hm

theorem eq_of_ascending {xs ys : List Migration} (hxs : xs.Pairwise fun a b => a.id ≤ b.id)
    (hys : ys.Pairwise fun a b => a.id ≤ b.id)
    (same : ∀ id, xs.filter (·.id = id) = ys.filter (·.id = id)) : xs = ys := by
  induction xs generalizing ys with
  | nil =>
      cases ys with
      | nil => rfl
      | cons y ys => exact absurd ((mem_iff_of_filter same y).mpr List.mem_cons_self) List.not_mem_nil
  | cons x xs ih =>
      cases ys with
      | nil => exact absurd ((mem_iff_of_filter same x).mp List.mem_cons_self) List.not_mem_nil
      | cons y ys =>
          have hle := head_le hxs ((mem_iff_of_filter same y).mpr List.mem_cons_self)
          have hge := head_le hys ((mem_iff_of_filter same x).mp List.mem_cons_self)
          have hid : x.id = y.id := Ident.ext (Nat.le_antisymm hle hge)
          -- Both lists begin with the first migration of their smallest ID.
          have hfirst := same x.id
          rw [List.filter_cons_of_pos (by simp), List.filter_cons_of_pos (by simp [hid]),
            List.cons.injEq] at hfirst
          obtain ⟨rfl, _⟩ := hfirst
          congr 1
          refine ih hxs.tail hys.tail fun id => ?_
          have hall := same id
          by_cases heq : x.id = id
          · rwa [List.filter_cons_of_pos (by simpa using heq),
              List.filter_cons_of_pos (by simpa using heq), List.cons.injEq, and_iff_right rfl]
              at hall
          · rwa [List.filter_cons_of_neg (by simpa using heq),
              List.filter_cons_of_neg (by simpa using heq)] at hall

/-- Sorting keeps the order of the migrations of one ID. -/
theorem sortById_stable (ms : List Migration) (id : Ident) :
    (Migration.sortById ms).filter (·.id = id) = ms.filter (·.id = id) := by
  have hequal : (ms.filter (·.id = id)).Pairwise fun a b => decide (a.id.value ≤ b.id.value) := by
    refine List.pairwise_of_forall_mem_list ?_
    intro a ha b hb
    have ha : a.id = id := by simpa using (List.mem_filter.mp ha).2
    have hb : b.id = id := by simpa using (List.mem_filter.mp hb).2
    simp [ha, hb]
  have hsublist : (ms.filter (·.id = id)).Sublist (Migration.sortById ms) :=
    List.sublist_mergeSort (fun a b c hab hbc => by simp only [decide_eq_true_eq] at *; omega)
      (fun a b => by simp only [Bool.or_eq_true, decide_eq_true_eq]; omega) hequal
      List.filter_sublist
  have hkept := hsublist.filter (·.id = id)
  rw [List.filter_filter] at hkept
  simp only [Bool.and_self] at hkept
  have hlength := ((List.mergeSort_perm ms fun a b => a.id.value ≤ b.id.value).filter
    (·.id = id)).length_eq
  exact (hkept.eq_of_length hlength.symm).symm

/-! ## The reference -/

/-- A list holds the migrations whose ID is in no row, each as often as it was given. It ascends by
ID, and migrations of one ID stand as they were given. -/
structure Selects (rows : List LedgerRow) (ms xs : List Migration) : Prop where
  count : ∀ m, xs.count m = if m.id ∈ rows.map (·.id) then 0 else ms.count m
  ascending : xs.Pairwise fun a b => a.id ≤ b.id
  stable : ∀ id, (xs.filter (·.id = id)).Sublist ms

theorem Selects.filter_eq {rows : List LedgerRow} {ms xs : List Migration}
    (h : Selects rows ms xs) (id : Ident) :
    xs.filter (·.id = id) = if id ∈ rows.map (·.id) then [] else ms.filter (·.id = id) := by
  split
  · next hrecorded =>
      rw [List.filter_eq_nil_iff]
      intro m hm hid
      have hid : m.id = id := by simpa using hid
      have hcount := h.count m
      rw [hid, if_pos hrecorded] at hcount
      exact List.count_eq_zero.mp hcount hm
  · next hnew =>
      have hkept := (h.stable id).filter (·.id = id)
      rw [List.filter_filter] at hkept
      simp only [Bool.and_self] at hkept
      have hperm : (xs.filter (·.id = id)).Perm (ms.filter (·.id = id)) := by
        rw [List.perm_iff_count]
        intro m
        by_cases hid : m.id = id
        · have hcount := h.count m
          rw [hid, if_neg hnew] at hcount
          rw [List.count_filter (by simpa using hid), List.count_filter (by simpa using hid), hcount]
        · rw [List.count_eq_zero.mpr (by simp [hid]), List.count_eq_zero.mpr (by simp [hid])]
      exact hkept.eq_of_length hperm.length_eq

theorem pendingAmong_selects (rows : List LedgerRow) (ms : List Migration) :
    Selects rows ms (pendingAmong rows ms) where
  count := by
    intro m
    rw [pendingAmong, Migration.sortById, (List.mergeSort_perm _ _).count_eq]
    split
    · next hrecorded =>
        rw [List.count_eq_zero]
        intro hm
        simp only [List.mem_filter, Bool.not_eq_eq_eq_not, Bool.not_true, List.any_eq_false,
          decide_eq_true_eq] at hm
        obtain ⟨row, hrow, hid⟩ := List.mem_map.mp hrecorded
        exact hm.2 row hrow hid
    · next hnew =>
        refine List.count_filter ?_
        simp only [Bool.not_eq_eq_eq_not, Bool.not_true, List.any_eq_false, decide_eq_true_eq]
        intro row hrow hid
        exact hnew (List.mem_map.mpr ⟨row, hrow, hid⟩)
  ascending := sortById_ascending _
  stable := by
    intro id
    rw [pendingAmong, sortById_stable]
    exact List.filter_sublist.trans List.filter_sublist

theorem pendingAmong_eq_iff {rows : List LedgerRow} {ms xs : List Migration} :
    pendingAmong rows ms = xs ↔ Selects rows ms xs := by
  constructor
  · rintro rfl
    exact pendingAmong_selects rows ms
  · intro h
    have hown := pendingAmong_selects rows ms
    refine eq_of_ascending hown.ascending h.ascending fun id => ?_
    rw [hown.filter_eq, h.filter_eq]

/-- Of the rows, only the IDs of files that are there count, and nothing but that they occur. -/
theorem pendingAmong_congr {rows rows' : List LedgerRow} {ms : List Migration}
    (same : ∀ m ∈ ms, m.id ∈ rows.map (·.id) ↔ m.id ∈ rows'.map (·.id)) :
    pendingAmong rows ms = pendingAmong rows' ms := by
  have hrecorded : ∀ (rows : List LedgerRow) (m : Migration),
      rows.any (·.id = m.id) = true ↔ m.id ∈ rows.map (·.id) := by simp
  rw [pendingAmong, pendingAmong]
  congr 1
  refine List.filter_congr fun m hm => ?_
  rw [Bool.not_inj_iff, Bool.eq_iff_iff, hrecorded, hrecorded]
  exact same m hm

/-! ## Limits -/

/-- What a plan is made from: the rows of the ledger and the files of a directory. -/
def survey (dir : Path) : Task Failure (List LedgerRow × List Migration) := do
  let rows ← applied
  let ms ← Directory.scan dir
  pure (rows, ms)

theorem run_pending_eq {σ : Type} (handle : Handler host σ) (s : σ) (dir : Path)
    (limit? : Option Ident) :
    Program.run handle (pending dir limit?).run s =
      match Program.run handle (survey dir).run s with
      | (.ok (rows, ms), after) => (.ok (needed rows limit? ms), after)
      | (.error failure, after) => (.error failure, after) := by
  rw [pending, Task.run_bind, plan, Task.run_bind, survey, Task.run_bind]
  rcases Program.run handle applied.run s with ⟨failure | rows, mid⟩
  · rfl
  · dsimp only
    rw [Task.run_bind, Task.run_bind]
    rcases Program.run handle (Directory.scan dir).run mid with ⟨failure | ms, after⟩ <;> rfl

theorem filter_initial {ms : List Migration} (ascending : ms.Pairwise fun a b => a.id ≤ b.id)
    {a b : Ident} (h : a ≤ b) : ms.filter (·.id ≤ a) <+: ms.filter (·.id ≤ b) := by
  have hsame : ms.filter (·.id ≤ a) = (ms.filter (·.id ≤ b)).filter (·.id ≤ a) := by
    rw [List.filter_filter]
    refine List.filter_congr fun m _ => ?_
    rw [Bool.eq_iff_iff, Bool.and_eq_true, decide_eq_true_eq, decide_eq_true_eq]
    exact ⟨fun hm => ⟨hm, Nat.le_trans hm h⟩, And.left⟩
  rw [hsame]
  exact upTo_initial (ascending.filter _) (some a)

/-- What is pending is the one selection from the rows and the files, whatever else the rows say. A
limit keeps the IDs up to it, so that what is pending up to a smaller limit comes first. -/
theorem pending_is_selection :
    (∀ rows ms xs, pendingAmong rows ms = xs ↔ Selects rows ms xs) ∧
    (∀ (rows rows' : List LedgerRow) (ms : List Migration),
      (∀ m ∈ ms, m.id ∈ rows.map (·.id) ↔ m.id ∈ rows'.map (·.id)) →
      pendingAmong rows ms = pendingAmong rows' ms) ∧
    ∀ {σ : Type} (handle : Handler host σ) (s after : σ) (dir : Path),
      (∀ rows ms, Program.run handle (survey dir).run s = (.ok (rows, ms), after) →
        Program.run handle (pending dir none).run s = (.ok (pendingAmong rows ms), after) ∧
        (∀ limit, Program.run handle (pending dir (some limit)).run s =
          (.ok ((pendingAmong rows ms).filter (·.id ≤ limit)), after)) ∧
        ∀ a b : Ident, a ≤ b →
          (pendingAmong rows ms).filter (·.id ≤ a) <+: (pendingAmong rows ms).filter (·.id ≤ b) ∧
          (pendingAmong rows ms).filter (·.id ≤ b) <+: pendingAmong rows ms) ∧
      ∀ failure, Program.run handle (survey dir).run s = (.error failure, after) →
        ∀ limit?, Program.run handle (pending dir limit?).run s = (.error failure, after) := by
  refine ⟨fun _ _ _ => pendingAmong_eq_iff, fun _ _ _ => pendingAmong_congr, ?_⟩
  intro σ handle s after dir
  constructor
  · intro rows ms hsurvey
    have hpending : ∀ limit?, Program.run handle (pending dir limit?).run s =
        (.ok (needed rows limit? ms), after) := by
      intro limit?
      rw [run_pending_eq, hsurvey]
    have hascending : (pendingAmong rows ms).Pairwise fun a b => a.id ≤ b.id := sortById_ascending _
    refine ⟨hpending none, fun limit => hpending (some limit), fun a b hle => ?_⟩
    exact ⟨filter_initial hascending hle, upTo_initial hascending (some b)⟩
  · intro failure hsurvey limit?
    rw [run_pending_eq, hsurvey]

theorem survey_unlogged : Program.run (Setting.inMemory.handler .plain) (survey (.ofText "m")).run
    unlogged = (.ok ([⟨.first, "init", .epoch⟩], [logging, second]),
      Setting.inMemory.told .applied unlogged) := by
  have hseen : Directory.seen (Listing.plain.sight unlogged.tree) (.ofText "m") =
      .ok [logging, second] := logbook_seen
  rw [survey, Task.run_bind, run_applied, unlogged_rows]
  dsimp only
  rw [Task.run_bind, Setting.run_scan, Setting.told_tree, hseen]
  rfl

/-- A row without a file tells nothing, and only the log is pending up to its own ID. -/
theorem pending_is_selection_unlogged :
    pendingAmong [⟨.first, "init", .epoch⟩] [logging, second] = pendingAmong [] [logging, second] ∧
    Program.run (Setting.inMemory.handler .plain) (pending (.ofText "m") (some logging.id)).run
      unlogged = (.ok [logging], Setting.inMemory.told .applied unlogged) ∧
    [logging] <+: (pendingAmong [⟨.first, "init", .epoch⟩] [logging, second]).filter
      (·.id ≤ second.id) := by
  have hselects : Selects [⟨.first, "init", .epoch⟩] [logging, second] [logging, second] := by
    have hself := pendingAmong_selects [⟨.first, "init", .epoch⟩] [logging, second]
    rwa [pendingAmong, List.filter_eq_self.mpr (by decide), sortById_of_ascending (by decide)]
      at hself
  obtain ⟨selection, rows, limits⟩ := pending_is_selection
  have hpending := (selection _ _ _).mpr hselects
  obtain ⟨_, hlimited, hinitial⟩ := (limits (Setting.inMemory.handler .plain) unlogged _
    (.ofText "m")).1 _ _ survey_unlogged
  have hfirst : (pendingAmong [⟨.first, "init", .epoch⟩] [logging, second]).filter
      (·.id ≤ logging.id) = [logging] := by
    rw [hpending]
    decide
  refine ⟨rows _ _ _ (by decide), ?_, ?_⟩
  · rw [hlimited, hfirst]
  · rw [← hfirst]
    exact (hinitial logging.id second.id (by decide)).1

end SchemaLedger.Apply
