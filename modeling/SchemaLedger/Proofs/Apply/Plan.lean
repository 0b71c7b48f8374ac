import Mathlib.Data.List.Nodup
import SchemaLedger.Apply.Plan

/-! # The order of a plan

What a run would apply, as a list: it ascends, and a limit cuts off its end. -/

namespace SchemaLedger.Apply

/-! ## Migrations by ID -/

theorem sortById_ascending (ms : List Migration) :
    (Migration.sortById ms).Pairwise fun a b => a.id ≤ b.id := by
  have hsorted := @List.pairwise_mergeSort Migration
    (fun a b => decide (a.id.value ≤ b.id.value))
    (fun a b c hab hbc => by simp only [decide_eq_true_eq] at *; omega)
    (fun a b => by simp only [Bool.or_eq_true, decide_eq_true_eq]; omega) ms
  exact hsorted.imp fun hle => of_decide_eq_true hle

/-- Where no two migrations share an ID, there is one ascending order of them. -/
theorem eq_of_perm_ascending {xs ys : List Migration} (perm : xs.Perm ys)
    (distinct : (xs.map (·.id)).Nodup) (hxs : xs.Pairwise fun a b => a.id ≤ b.id)
    (hys : ys.Pairwise fun a b => a.id ≤ b.id) : xs = ys := by
  refine perm.eq_of_pairwise ?_ hxs hys
  intro a b ha hb hab hba
  have hid : a.id = b.id := Ident.ext (Nat.le_antisymm hab hba)
  exact List.inj_on_of_nodup_map distinct ha (perm.mem_iff.mpr hb) hid

theorem strict_of_ascending {ms : List Migration} (ascending : ms.Pairwise fun a b => a.id ≤ b.id)
    (distinct : (ms.map (·.id)).Nodup) : ms.Pairwise fun a b => a.id < b.id := by
  refine (ascending.and (List.pairwise_map.mp distinct)).imp ?_
  rintro a b ⟨hle, hne⟩
  exact Nat.lt_of_le_of_ne hle fun heq => hne (Ident.ext heq)

theorem sortById_filter {xs ys : List Migration} (perm : xs.Perm ys)
    (distinct : (ys.map (·.id)).Nodup) (p : Migration → Bool) :
    Migration.sortById (xs.filter p) = (Migration.sortById ys).filter p := by
  have hperm : (Migration.sortById (xs.filter p)).Perm ((Migration.sortById ys).filter p) := by
    refine (List.mergeSort_perm _ _).trans ((perm.filter p).trans ?_)
    exact ((List.mergeSort_perm ys _).filter p).symm
  refine eq_of_perm_ascending hperm ?_ (sortById_ascending _) ((sortById_ascending ys).filter p)
  have hxs : ((xs.filter p).map (·.id)).Nodup :=
    ((perm.map _).nodup_iff.mpr distinct).sublist (List.filter_sublist.map _)
  exact ((List.mergeSort_perm _ _).map _).nodup_iff.mpr hxs

theorem sortById_of_ascending {ms : List Migration}
    (ascending : ms.Pairwise fun a b => a.id ≤ b.id) : Migration.sortById ms = ms :=
  List.mergeSort_of_pairwise (ascending.imp fun hle => decide_eq_true hle)

/-! ## Plans -/

/-- The migrations that a run would apply after it has seen some rows. -/
def needed (rows : List LedgerRow) (limit? : Option Ident) (ms : List Migration) :
    List Migration := upTo limit? (pendingAmong rows ms)

/-- There is no limit, or one that is not below the ID. -/
def Admits (limit? : Option Ident) (id : Ident) : Prop := ∀ limit ∈ limit?, id ≤ limit

/-- One limit lets no more through than another. -/
def NoLater (limit? other? : Option Ident) : Prop :=
  ∀ other ∈ other?, ∃ limit ∈ limit?, limit ≤ other

theorem NoLater.admits {limit? other? : Option Ident} (h : NoLater limit? other?) {id : Ident}
    (admits : Admits limit? id) : Admits other? id := by
  intro other hother
  obtain ⟨limit, hlimit, hle⟩ := h other hother
  exact Nat.le_trans (admits limit hlimit) hle

theorem mem_upTo {limit? : Option Ident} {ms : List Migration} {m : Migration} :
    m ∈ upTo limit? ms ↔ m ∈ ms ∧ Admits limit? m.id := by
  cases limit? <;> simp [upTo, Admits]

theorem mem_needed_iff {rows : List LedgerRow} {limit? : Option Ident} {ms : List Migration}
    {m : Migration} : m ∈ needed rows limit? ms ↔
      m ∈ ms ∧ m.id ∉ rows.map (·.id) ∧ Admits limit? m.id := by
  rw [needed, mem_upTo, pendingAmong, Migration.sortById, List.mem_mergeSort, List.mem_filter]
  simp [and_assoc]

theorem mem_needed {rows : List LedgerRow} {limit? : Option Ident} {ms : List Migration}
    {m : Migration} (h : m ∈ needed rows limit? ms) : m ∈ ms := (mem_needed_iff.mp h).1

theorem needed_ascending (rows : List LedgerRow) (limit? : Option Ident) (ms : List Migration) :
    (needed rows limit? ms).Pairwise fun a b => a.id ≤ b.id := by
  have hsorted : (pendingAmong rows ms).Pairwise fun a b => a.id ≤ b.id := sortById_ascending _
  cases limit? with
  | none => exact hsorted
  | some limit => exact hsorted.filter _

theorem needed_strict {ms : List Migration} (rows : List LedgerRow) (limit? : Option Ident)
    (distinct : (ms.map (·.id)).Nodup) :
    (needed rows limit? ms).Pairwise fun a b => a.id < b.id := by
  have hpending : ((pendingAmong rows ms).map (·.id)).Nodup := by
    have hfilter := distinct.sublist ((List.filter_sublist (p := fun m =>
      !rows.any (·.id = m.id)) (l := ms)).map (·.id))
    exact ((List.mergeSort_perm _ _).map _).nodup_iff.mpr hfilter
  have hneeded : (needed rows limit? ms).Sublist (pendingAmong rows ms) := by
    cases limit? with
    | none => exact List.Sublist.refl _
    | some limit => exact List.filter_sublist
  exact strict_of_ascending (needed_ascending rows limit? ms) (hpending.sublist (hneeded.map _))

/-- A limit cuts off the end of an ascending list. -/
theorem upTo_initial {ms : List Migration} (ascending : ms.Pairwise fun a b => a.id ≤ b.id)
    (limit? : Option Ident) : upTo limit? ms <+: ms := by
  cases limit? with
  | none => exact List.prefix_refl ms
  | some limit =>
      induction ms with
      | nil => exact List.prefix_refl _
      | cons m rest ih =>
          obtain ⟨hfirst, hrest⟩ := List.pairwise_cons.mp ascending
          by_cases hle : m.id ≤ limit
          · have hcons : upTo (some limit) (m :: rest) = m :: upTo (some limit) rest := by
              simp [upTo, hle]
            rw [hcons]
            exact List.cons_prefix_cons.mpr ⟨rfl, ih hrest⟩
          · have hnone : upTo (some limit) (m :: rest) = [] := by
              refine List.filter_eq_nil_iff.mpr ?_
              intro other hother
              rw [decide_eq_true_eq]
              rcases List.mem_cons.mp hother with rfl | hother
              · exact hle
              · exact fun hbelow => hle (Nat.le_trans (hfirst other hother) hbelow)
            rw [hnone]
            exact List.nil_prefix

theorem upTo_filter (limit? : Option Ident) (p : Migration → Bool) (ms : List Migration) :
    (upTo limit? ms).filter p = upTo limit? (ms.filter p) := by
  cases limit? with
  | none => rfl
  | some limit => exact List.filter_comm ..

end SchemaLedger.Apply
