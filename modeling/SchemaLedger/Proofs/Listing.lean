import Mathlib.Data.List.Perm.Basic
import SchemaLedger.Proofs.Apply.Course
import SchemaLedger.Proofs.Directory.Padding

/-! # The order of a listing

A directory may list its names in any order. What is found in it is the same up to order, and what
activities make of that is the same altogether. -/

namespace SchemaLedger

open Files (Tree)
open Program (Asks)

/-! ## Migrations in any order -/

namespace Migration

variable {ms ms' : List Migration}

theorem maxWidth_perm (perm : ms'.Perm ms) : maxWidth ms' = maxWidth ms := by
  rw [maxWidth, maxWidth]
  exact (perm.map _).foldr_eq 0

variable (perm : ms'.Perm ms) (distinct : (ms.map (·.id)).Nodup)

include perm distinct

theorem sortById_perm : sortById ms' = sortById ms := by
  have hperm : (sortById ms').Perm (sortById ms) :=
    (List.mergeSort_perm _ _).trans (perm.trans (List.mergeSort_perm _ _).symm)
  refine Apply.eq_of_perm_ascending hperm ?_ (Apply.sortById_ascending _)
    (Apply.sortById_ascending _)
  exact (((List.mergeSort_perm _ _).trans perm).map _).nodup_iff.mpr distinct

theorem find?_perm (id : Ident) : ms'.find? (·.id = id) = ms.find? (·.id = id) := by
  have hid : ∀ {m : Migration} {ks : List Migration}, ks.find? (·.id = id) = some m → m.id = id :=
    fun h => by simpa using List.find?_some h
  cases hfound : ms.find? (·.id = id) with
  | none =>
      rw [List.find?_eq_none] at hfound ⊢
      exact fun m hm => hfound m (perm.mem_iff.mp hm)
  | some m =>
      have hm := List.mem_of_find?_eq_some hfound
      cases hfound' : ms'.find? (·.id = id) with
      | none =>
          have hnone := List.find?_eq_none.mp hfound' m (perm.mem_iff.mpr hm)
          simp [hid hfound] at hnone
      | some m' =>
          have hm' := perm.mem_iff.mp (List.mem_of_find?_eq_some hfound')
          have hsame := (hid hfound').trans (hid hfound).symm
          rw [List.inj_on_of_nodup_map distinct hm' hm hsame]

end Migration

namespace Directory

variable {ms ms' : List Migration} (perm : ms'.Perm ms) (distinct : (ms.map (·.id)).Nodup)

include perm distinct

theorem vacant_perm (id : Ident) (name : String) : vacant id name ms' = vacant id name ms := by
  rw [vacant, vacant, Migration.find?_perm perm distinct]

theorem renamings_perm : renamings ms' = renamings ms := by
  rw [renamings, renamings, Migration.maxWidth_perm perm, Migration.sortById_perm perm distinct]

end Directory

theorem Apply.pendingAmong_perm {ms ms' : List Migration} (perm : ms'.Perm ms)
    (distinct : (ms.map (·.id)).Nodup) (rows : List LedgerRow) :
    pendingAmong rows ms' = pendingAmong rows ms := by
  rw [pendingAmong, pendingAmong, sortById_filter perm distinct, sortById_filter (.refl ms) distinct]

/-! ## What is found -/

def Listing.plain : Listing := ⟨id, .refl⟩

theorem Listing.sight_plain (tree : Tree) : plain.sight tree = .ofTree tree := by
  funext call
  cases call with
  | list dir =>
      change (tree.list dir).map id = tree.list dir
      cases tree.list dir <;> rfl
  | _ => rfl

section Finds

variable {tree : Tree} {dir : Path} {found : List Migration} {listing : Listing}

/-- In another order, the same migrations are found in another order. -/
theorem Directory.Finds.relist (h : Finds (listing.sight tree) dir found) (listing' : Listing) :
    ∃ found', Finds (listing'.sight tree) dir found' ∧ found'.Perm found := by
  obtain ⟨entries, hlist, hreads, hdistinct⟩ := h
  obtain ⟨names, hnames, rfl⟩ := Listing.exists_listed hlist
  have hperm : (listing'.order names).Perm (listing.order names) :=
    (listing'.perm names).trans (listing.perm names).symm
  obtain ⟨found', hreads', hfound⟩ := List.perm_comp_forall₂ hperm hreads
  refine ⟨found', ⟨listing'.order names, ?_, ?_, (hfound.map _).nodup_iff.mpr hdistinct⟩, hfound⟩
  · change (tree.list dir).map listing'.order = _
    rw [hnames]
    rfl
  · exact hreads'.imp fun _ _ hm => ⟨hm.heading, hm.path, hm.content⟩

theorem Directory.exists_seen_iff (listing listing' : Listing) (tree : Tree) (dir : Path) :
    (∃ found, seen (listing.sight tree) dir = .ok found) ↔
      ∃ found, seen (listing'.sight tree) dir = .ok found := by
  have hrelist : ∀ listing listing' : Listing, (∃ found, seen (listing.sight tree) dir = .ok found) →
      ∃ found, seen (listing'.sight tree) dir = .ok found := by
    rintro listing listing' ⟨found, hfound⟩
    obtain ⟨found', hfound', _⟩ := (seen_eq_ok.mp hfound).relist listing'
    exact ⟨found', seen_eq_ok.mpr hfound'⟩
  exact ⟨hrelist _ _, hrelist _ _⟩

end Finds

/-! ## Activities under two listings -/

section Alike

variable {σ α β : Type} {setting : Setting σ} {listing listing' : Listing} {site : Site σ}
variable {dir : Path} {found : List Migration}

/-- A task runs in the same way in whatever of two orders directories list their names. -/
def Alike (setting : Setting σ) (listing listing' : Listing) (site : Site σ)
    (task : Task Failure α) : Prop :=
  Program.run (setting.handler listing) task.run site =
    Program.run (setting.handler listing') task.run site

theorem Alike.bind {task : Task Failure α} {next : α → Task Failure β}
    (first : Alike setting listing listing' site task)
    (rest : ∀ value after, Program.run (setting.handler listing) task.run site = (.ok value, after) →
      Alike setting listing listing' after (next value)) :
    Alike setting listing listing' site (task >>= next) := by
  rw [Alike, Task.run_bind, Task.run_bind, ← first]
  rcases hrun : Program.run (setting.handler listing) task.run site with ⟨failure | value, after⟩
  · rfl
  · exact rest value after hrun

theorem alike_of_unlisted {task : Task Failure α} (unlisted : Asks Host.Call.Unlisted task.run) :
    Alike setting listing listing' site task := Setting.run_unlisted unlisted listing'

/-- What goes on in the same way with the same migrations in any order does so after a scan. -/
theorem alike_of_scan {next : List Migration → Task Failure α}
    (finds : Directory.Finds (listing.sight site.tree) dir found)
    (same : ∀ ms', ms'.Perm found → next ms' = next found)
    (unlisted : Asks Host.Call.Unlisted (next found).run) :
    Alike setting listing listing' site (Directory.scan dir >>= next) := by
  obtain ⟨found', hfound', hperm⟩ := finds.relist listing'
  rw [Alike, Task.run_bind, Task.run_bind, Setting.run_scan, Setting.run_scan,
    Directory.seen_eq_ok.mpr finds, Directory.seen_eq_ok.mpr hfound']
  dsimp only
  rw [same found' hperm]
  exact Setting.run_unlisted unlisted listing'

/-! ## Activities on a directory -/

theorem alike_plan (finds : Directory.Finds (listing.sight site.tree) dir found)
    (limit? : Option Ident) : Alike setting listing listing' site (Apply.plan dir limit?) := by
  obtain ⟨_, _, _, hdistinct⟩ := id finds
  refine (alike_of_unlisted ?_).bind fun rows after hrun => ?_
  · exact Apply.applied_asks (fun _ => nofun) fun _ => nofun
  rw [Apply.run_applied] at hrun
  obtain ⟨_, rfl⟩ := Prod.mk.inj hrun
  refine alike_of_scan finds (fun ms' hperm => ?_) trivial
  rw [Apply.pendingAmong_perm hperm hdistinct]

theorem alike_creation (finds : Directory.Finds (listing.sight site.tree) dir found)
    (m : Directory.Made) {width : List Migration → Nat}
    (hwidth : ∀ ms', ms'.Perm found → width ms' = width found) (event : Path → Event) :
    Alike setting listing listing' site (Directory.creation dir m width event) := by
  obtain ⟨_, _, _, hdistinct⟩ := id finds
  refine alike_of_scan finds (fun ms' hperm => ?_) ?_
  · rw [hwidth ms' hperm]
    dsimp only
    rw [Directory.vacant_perm hperm hdistinct]
  · refine Task.asks_bind (Task.asks_ofExcept _ _) fun _ => ?_
    refine Task.asks_bind (Directory.writeNew_unlisted _ _) fun _ => ?_
    exact Task.asks_bind (Task.asks_note nofun) fun _ => trivial

theorem alike_renumber (finds : Directory.Finds (listing.sight site.tree) dir found)
    (write : Bool) : Alike setting listing listing' site (Directory.renumber dir write) := by
  obtain ⟨_, _, _, hdistinct⟩ := id finds
  refine alike_of_scan finds (fun ms' hperm => ?_) ?_
  · rw [hperm.isEmpty_eq, Directory.renamings_perm hperm hdistinct]
  · split
    · exact trivial
    · cases write with
      | true => exact Task.asks_bind (Directory.renameEach_unlisted _) fun _ => trivial
      | false => exact Task.asks_bind (Task.asks_note nofun) fun _ => trivial

theorem tree_of_makeAll {loc : Files.Location} (leads : site.tree.Leads dir loc)
    {wrap : Files.IoError → Failure} {result : Except Failure Unit} {after : Site σ}
    (hrun : Program.run (setting.handler listing) ((Directory.makeAll dir).adapt wrap).run site =
      (result, after)) : after.tree = site.tree := by
  have hruns := @Setting.runs_frailShop σ _ setting listing site _
    (Task.asks_adapt wrap (Directory.makeAll_unlisted dir))
  have hmeets : Program.Meets (frailShop setting.now) ((Directory.makeAll dir).adapt wrap).run
      (fun _ tree => tree = site.tree) site.tree := by
    rw [Task.meets_adapt]
    exact Directory.meets_makeAll_of_leads (Directory.serves_frailShop _) leads
  rw [hrun] at hruns
  exact hruns.ends hmeets

theorem alike_setUp (finds : Directory.Finds (listing.sight site.tree) dir found) :
    Alike setting listing listing' site (Directory.setUp dir) := by
  obtain ⟨plain, hplain, _⟩ := finds.relist .plain
  rw [Listing.sight_plain] at hplain
  obtain ⟨loc, hloc⟩ := Directory.exists_denotes hplain
  rw [Directory.setUp_eq]
  refine (alike_of_unlisted ?_).bind fun value after hrun => ?_
  · exact Task.asks_adapt _ (Directory.makeAll_unlisted dir)
  · rw [← tree_of_makeAll hloc.leads hrun] at finds
    exact alike_creation finds _ (fun _ _ => rfl) _

theorem run_currentId : Program.run (setting.handler listing) Directory.currentId.run site =
    ((Ident.ofInt setting.now).mapError .ident, site) := by
  rw [Directory.currentId, Task.run_bind]
  exact Task.run_ofExcept _ _ _ _

theorem alike_newFile (finds : Directory.Finds (listing.sight site.tree) dir found)
    (id? : Option Ident) (description : String) (template? : Option String) :
    Alike setting listing listing' site (Directory.newFile dir id? description template?) := by
  have hcreation : ∀ id, Alike setting listing listing' site (Directory.creation dir
      (.described id description template?) Migration.maxWidth .createdFile) :=
    fun id => alike_creation finds _ (fun _ => Migration.maxWidth_perm) _
  cases id? with
  | some given => exact hcreation given
  | none =>
      refine (alike_of_unlisted ?_).bind fun id after hrun => ?_
      · exact Task.asks_bind ⟨nofun, fun _ => trivial⟩ fun _ => Task.asks_ofExcept _ _
      · rw [run_currentId] at hrun
        rw [← (Prod.mk.inj hrun).2]
        exact hcreation id

theorem alike_run (finds : Directory.Finds (listing.sight site.tree) dir found)
    (limit? : Option Ident) : Alike setting listing listing' site (Apply.run dir limit?) := by
  refine (alike_plan finds limit?).bind fun planned after _ => alike_of_unlisted ?_
  exact Task.asks_bind (Apply.applyEach_asks (fun _ => nofun) (fun _ => nofun) _) fun _ => trivial

theorem alike_pending (finds : Directory.Finds (listing.sight site.tree) dir found)
    (limit? : Option Ident) : Alike setting listing listing' site (Apply.pending dir limit?) :=
  (alike_plan finds limit?).bind fun _ _ _ => alike_of_unlisted trivial

end Alike

/-! ## All of them -/

inductive Operation where
  | run (limit? : Option Ident)
  | pending (limit? : Option Ident)
  | renumber (write : Bool)
  | newFile (id? : Option Ident) (description : String) (template? : Option String)
  | setUp
  deriving DecidableEq, Repr

namespace Operation

abbrev Result : Operation → Type
  | run _ => Apply.Outcome
  | pending _ => List Migration
  | renumber _ => List Renaming
  | newFile .. | setUp => Path

def task (dir : Path) : (operation : Operation) → Task Failure operation.Result
  | run limit? => Apply.run dir limit?
  | pending limit? => Apply.pending dir limit?
  | renumber write => Directory.renumber dir write
  | newFile id? description template? => Directory.newFile dir id? description template?
  | setUp => Directory.setUp dir

variable {σ : Type}

/-- Whether a directory can be scanned does not depend on the order in which it lists its names. If
it can be, neither does the result of an operation, what the operation asks of the store and of the
files, or what it makes of them. -/
theorem run_relisted (listing listing' : Listing) (dir : Path) :
    (∀ tree, (∃ found, Directory.seen (listing.sight tree) dir = .ok found) ↔
      ∃ found, Directory.seen (listing'.sight tree) dir = .ok found) ∧
    ∀ (setting : Setting σ) (site : Site σ) (found : List Migration) (operation : Operation),
      Directory.seen (listing.sight site.tree) dir = .ok found →
      Program.run (setting.handler listing) (operation.task dir).run site =
        Program.run (setting.handler listing') (operation.task dir).run site := by
  refine ⟨fun tree => Directory.exists_seen_iff listing listing' tree dir, ?_⟩
  intro setting site found operation hfound
  have finds := Directory.seen_eq_ok.mp hfound
  cases operation with
  | run limit? => exact alike_run finds limit?
  | pending limit? => exact alike_pending finds limit?
  | renumber write => exact alike_renumber finds write
  | newFile id? description template? => exact alike_newFile finds id? description template?
  | setUp => exact alike_setUp finds

end Operation

/-! ## Two files in the other order -/

def Listing.reversed : Listing := ⟨List.reverse, List.reverse_perm⟩

def Setting.ordinary : Setting Unit where
  now := 0
  store call site := (call.failed (.backend "no store"), site)
  files _ call tree := tree.answer call
  conforms _ _ _ := .inl (.inl rfl)

open Directory in
theorem Operation.run_relisted_uneven :
    (Program.run (Setting.ordinary.handler .reversed)
      ((Operation.newFile (some ⟨12, by decide⟩) "c" none).task (.ofText "m")).run
      ⟨uneven, (), []⟩).1 = .ok (.ofText "m/12-c.sql") := by
  have hscan : seen (Listing.plain.sight uneven) (.ofText "m") = .ok nineAndTen := by
    decide +kernel
  have hsame := (run_relisted .plain .reversed (.ofText "m")).2 Setting.ordinary ⟨uneven, (), []⟩
    nineAndTen (.newFile (some ⟨12, by decide⟩) "c" none) hscan
  rw [← hsame]
  decide +kernel

end SchemaLedger
