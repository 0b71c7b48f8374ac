import Mathlib.Logic.Function.Basic
import SchemaLedger.Proofs.Directory.Crew
import SchemaLedger.Proofs.Directory.History
import SchemaLedger.Proofs.Directory.Setup

/-! # Setups that work on one directory together

Several setups may each find a directory without a bootstrap migration, and one may list the file or
read it while another has written a part of it. But they all create the same name, and so only one of
them does. -/

namespace SchemaLedger.Directory

open Files (Call Entry Fits IoError Location Tree)

variable {now : Int} {start base tree after : Tree} {dir : Path} {loc : Location}
variable {stage stage' : Stage} {stages : Nat → Stage} {i : Nat} {part : Octets}

/-! ## What a call may make of a tree -/

/-- What a setup that scans has found out: nothing but the file of another setup has come into the
directory since, and what it has read are no directories. -/
def Knows (dir : Path) (tree : Tree) : Stage → Prop
  | .scanning listed read => ∃ loc, tree.Denotes dir loc ∧
    ∀ x ∈ tree.entriesIn loc, x.1 ≠ bootstrapName →
      x.1 ∈ listed ∧ (Fits x.1 → dir.join x.1 ∈ read → x.2 ≠ .directory)
  | _ => True

/-- What a call by the rule may make of a tree and of the stage of the setup that makes it. -/
inductive Change (dir : Path) (tree : Tree) : Stage → Stage → Tree → Prop
  | none (stage : Stage) : Change dir tree stage stage tree
  | looked {stage stage' : Stage} (next : ¬ stage'.Created) (knows : Knows dir tree stage') :
    Change dir tree stage stage' tree
  | made {path : Path} {after : Tree} (above : path ∈ dir.ancestors)
      (h : tree.makeDir path = .ok after) : Change dir tree .making .making after
  | created {listed : List Name} {read : List Path} {after : Tree}
      (cleared : Stage.Cleared dir listed read)
      (h : tree.create (dir.join bootstrapName) = .ok after) :
    Change dir tree (.scanning listed read) .writing after
  | torn {part : Octets} {after : Tree} (h : tree.fill (dir.join bootstrapName) part = .ok after) :
    Change dir tree .writing .writing after
  | written {after : Tree}
      (h : tree.fill (dir.join bootstrapName) (Text.octets Bootstrap.sql) = .ok after) :
    Change dir tree .writing .written after

theorem change_of_list {answer : Except IoError (List Name)}
    (h : ∀ names, answer = .ok names → ∃ found, tree.list dir = .ok found ∧ found ⊆ names) :
    Change dir tree .making (Stage.after .making (.files (.list dir)) answer) tree := by
  cases answer with
  | error error => exact .none _
  | ok names =>
      obtain ⟨found, hlist, hnames⟩ := h names rfl
      obtain ⟨loc, hdenotes, rfl⟩ := denotes_of_list hlist
      refine .looked id ⟨loc, hdenotes, ?_⟩
      intro x hx _
      refine ⟨hnames ?_, fun _ hread => by cases hread⟩
      rw [Tree.names_eq]
      exact List.mem_map_of_mem hx

theorem change_of_read (proper : tree.Proper) {listed : List Name} {read : List Path} {path : Path}
    (knows : Knows dir tree (.scanning listed read)) {answer : Except IoError Octets}
    (h : ∀ content, answer = .ok content → tree.read path = .ok content) :
    Change dir tree (.scanning listed read)
      (Stage.after (.scanning listed read) (.files (.read path)) answer) tree := by
  cases answer with
  | error error => exact .none _
  | ok content =>
      obtain ⟨loc, hdenotes, hentries⟩ := knows
      refine .looked id ⟨loc, hdenotes, ?_⟩
      rintro ⟨name, entry⟩ hx hother
      obtain ⟨hlisted, hread⟩ := hentries _ hx hother
      refine ⟨hlisted, ?_⟩
      rintro fits hmem rfl
      rcases List.mem_cons.mp hmem with rfl | hmem
      · have hfound := proper.get?_of_mem (Tree.mem_entriesIn.mp hx)
        exact Tree.read_directory (hdenotes.leads.enters fits.plain) fits.short hfound content
          (h content rfl)
      · exact hread fits hmem rfl

theorem change_of_fill {answer : Except IoError Unit}
    (h : (frailShop now).answers tree
      (.files (.fill (dir.join bootstrapName) Bootstrap.sql)) answer after) :
    Change dir tree .writing (Stage.after .writing
      (.files (.fill (dir.join bootstrapName) Bootstrap.sql)) answer) after := by
  rcases h with (hanswer | ⟨hrefused, _⟩) | htears
  · cases hfill : tree.fill (dir.join bootstrapName) (Text.octets Bootstrap.sql) with
    | ok next =>
        rw [Tree.answer, hfill] at hanswer
        cases hanswer
        exact .written hfill
    | error error =>
        rw [Tree.answer, hfill] at hanswer
        cases hanswer
        exact .none _
  · cases hrefused
  · cases htears with
    | untouched => exact .none _
    | torn _ _ hfill => exact .torn hfill

theorem change_of_rule {request : Host.Call} {answer : request.Answer} (proper : tree.Proper)
    (knows : Knows dir tree stage) (rule : Stage.Rule dir stage request)
    (answers : (frailShop now).answers tree request answer after) :
    Change dir tree stage (stage.after request answer) after := by
  cases rule with
  | @makeDir path above =>
      rcases ((serves_frailShop now).makeDir tree path).2 answer after answers with
        ⟨rfl, hmade⟩ | ⟨⟨error, rfl⟩, rfl⟩
      · exact .made above hmade
      · exact .none _
  | isDir path =>
      obtain ⟨_, rfl⟩ := ((serves_frailShop now).isDir tree path).2 answer after answers
      exact .none _
  | list =>
      obtain ⟨hanswer, rfl⟩ := ((shows_frailShop now tree).list dir).2 answer after answers
      refine change_of_list ?_
      rintro names rfl
      rcases hanswer with hanswer | ⟨_, _, hanswer⟩
      · exact ⟨names, hanswer.symm, List.Subset.refl _⟩
      · cases hanswer
  | read listed read path =>
      obtain ⟨hanswer, rfl⟩ := ((shows_frailShop now tree).read path).2 answer after answers
      refine change_of_read proper knows ?_
      rintro content rfl
      rcases hanswer with hanswer | ⟨_, _, hanswer⟩
      · exact hanswer.symm
      · cases hanswer
  | create cleared =>
      rcases ((serves_frailShop now).create tree (dir.join bootstrapName)).2 answer after answers
        with ⟨rfl, hcreated⟩ | ⟨⟨error, rfl⟩, rfl⟩
      · exact .created cleared hcreated
      · exact .none _
  | fill => exact change_of_fill answers
  | note stage event =>
      obtain ⟨_, rfl⟩ := ((serves_frailShop now).note tree event).2 answer after answers
      have hstage : stage.after (.note event) answer = stage := by cases stage <;> rfl
      rw [hstage]
      exact .none _

/-! ## What setups have made of a tree -/

/-- A place for the file: a directory that holds what it held in the beginning, and no migration
with ID 0 among that. -/
structure Ground (start base : Tree) (dir : Path) (loc : Location) : Prop where
  founded : Founded start base
  denotes : base.Denotes dir loc
  entries : base.entriesIn loc = start.entriesIn loc
  vacant : ∀ name ∈ start.names loc, ¬ Announces name .first
  fresh : base.get? (bootstrapName :: loc) = none
  spelled : Tree.spelled (dir.join bootstrapName) = .ok ()

/-- Directories have been made, and then perhaps one file has been added to a directory. -/
inductive Grown (start : Tree) (dir : Path) (stages : Nat → Stage) : Tree → Prop
  | founded {tree : Tree} (founded : Founded start tree) (none : ∀ i, ¬ (stages i).Created) :
    Grown start dir stages tree
  | created {base : Tree} {loc : Location} {part : Octets} (ground : Ground start base dir loc)
      (whole : ∀ i, stages i = .written → part = Text.octets Bootstrap.sql) :
    Grown start dir stages (base.add (bootstrapName :: loc) (.file part))

/-- What setups have made of a tree, and what each of them knows of it. At most one has created its
file. -/
structure Contested (start : Tree) (dir : Path) (stages : Nat → Stage) (tree : Tree) : Prop where
  grown : Grown start dir stages tree
  knows : ∀ i, Knows dir tree (stages i)
  single : ∀ i j, (stages i).Created → (stages j).Created → i = j

theorem Knows.of_entries (h : Knows dir tree stage)
    (denotes : ∀ loc, tree.Denotes dir loc → after.Denotes dir loc)
    (entries : ∀ loc, tree.Denotes dir loc → ∀ x ∈ after.entriesIn loc, x.1 ≠ bootstrapName →
      x ∈ tree.entriesIn loc) : Knows dir after stage := by
  cases stage with
  | scanning listed read =>
      obtain ⟨loc, hdenotes, hentries⟩ := h
      exact ⟨loc, denotes loc hdenotes, fun x hx hother =>
        hentries x (entries loc hdenotes x hx hother) hother⟩
  | _ => trivial

theorem Knows.of_created (created : stage.Created) : Knows dir tree stage := by
  cases stage with
  | scanning listed read => exact created.elim
  | _ => trivial

theorem mem_entriesIn_added {loc' : Location} {x : Name × Entry} (other : x.1 ≠ bootstrapName) :
    x ∈ (base.add (bootstrapName :: loc) (.file part)).entriesIn loc' ↔ x ∈ base.entriesIn loc' := by
  rw [Tree.entriesIn_add, List.mem_append, or_iff_left]
  split
  · intro hx
    exact other (congrArg Prod.fst (List.mem_singleton.mp hx))
  · exact List.not_mem_nil

namespace Ground

variable (ground : Ground start base dir loc)

include ground

theorem enters : base.Enters (dir.join bootstrapName) loc bootstrapName :=
  ground.denotes.leads.enters plain_bootstrapName

theorem denotes_added (part : Octets) :
    (base.add (bootstrapName :: loc) (.file part)).Denotes dir loc :=
  ground.denotes.mono (Tree.keeps_add _ _ _)

theorem fill_eq (part content : Octets) :
    (base.add (bootstrapName :: loc) (.file part)).fill (dir.join bootstrapName) content =
      .ok (base.add (bootstrapName :: loc) (.file content)) :=
  Tree.fill_added ground.enters ground.spelled (by decide +kernel) ground.fresh part content

/-- Nobody notices how much of the file has been written. -/
theorem knows (part content : Octets)
    (h : Knows dir (base.add (bootstrapName :: loc) (.file part)) stage) :
    Knows dir (base.add (bootstrapName :: loc) (.file content)) stage := by
  refine h.of_entries ?_ ?_
  · intro loc' hloc'
    rw [hloc'.unique (ground.denotes_added part)]
    exact ground.denotes_added content
  · intro loc' _ x hx hother
    exact (mem_entriesIn_added hother).mpr ((mem_entriesIn_added hother).mp hx)

end Ground

namespace Grown

theorem proper (h : Grown start dir stages tree) (proper : start.Proper) : tree.Proper := by
  cases h with
  | founded founded => exact founded.proper proper
  | created ground _ =>
      exact (ground.founded.proper proper).add ground.fresh ground.denotes.leads.isDirectory _

theorem get?_eq {loc : Location} {entry : Entry} (h : Grown start dir stages tree)
    (found : start.get? loc = some entry) : tree.get? loc = some entry := by
  cases h with
  | founded founded => exact founded.grown.found _ _ found
  | created ground _ => exact Tree.get?_add_of_some (ground.founded.grown.found _ _ found)

theorem keeps (h : Grown start dir stages tree) : start.Keeps tree := by
  cases h with
  | founded founded => exact founded.keeps
  | created ground _ => exact ground.founded.keeps.trans (Tree.keeps_add _ _ _)

end Grown

theorem ground_of_create (founded : Founded start tree) {listed : List Name} {read : List Path}
    (knows : Knows dir tree (.scanning listed read)) (cleared : Stage.Cleared dir listed read)
    (h : tree.create (dir.join bootstrapName) = .ok after) :
    ∃ loc, Ground start tree dir loc ∧ after = tree.add (bootstrapName :: loc) (.file []) := by
  obtain ⟨loc, hdenotes, hentries⟩ := knows
  obtain ⟨hspelled, _, hfresh, rfl⟩ :=
    Tree.create_entry (hdenotes.leads.enters plain_bootstrapName) h
  have hknown : ∀ x ∈ tree.entriesIn loc,
      x.1 ∈ listed ∧ (Fits x.1 → dir.join x.1 ∈ read → x.2 ≠ .directory) := by
    rintro ⟨name, entry⟩ hx
    refine hentries _ hx ?_
    rintro rfl
    exact Tree.get?_eq_none hfresh _ (Tree.mem_entriesIn.mp hx) rfl
  obtain ⟨added, hadded, hdirs⟩ := founded.exists_added loc
  have hnone : added = [] := by
    refine List.eq_nil_iff_forall_not_mem.mpr ?_
    intro x hx
    obtain ⟨hdir, hfits⟩ := hdirs x hx
    obtain ⟨hlisted, hread⟩ := hknown x (hadded ▸ List.mem_append_right _ hx)
    exact hread hfits (cleared _ hlisted).1 hdir
  rw [hnone, List.append_nil] at hadded
  refine ⟨loc, ⟨founded, hdenotes, hadded, ?_, hfresh, hspelled⟩, rfl⟩
  rintro name hname ⟨h, hheading, hid⟩
  rw [Tree.names_eq, ← hadded] at hname
  obtain ⟨x, hx, rfl⟩ := List.mem_map.mp hname
  obtain ⟨_, h', hheading', hother⟩ := cleared _ (hknown x hx).1
  cases hheading.symm.trans hheading'
  exact hother hid

/-! ## Steps -/

namespace Contested

theorem first (start : Tree) (dir : Path) : Contested start dir (fun _ => .making) start where
  grown := .founded .start fun _ => id
  knows := fun _ => trivial
  single := fun _ _ h => h.elim

variable (h : Contested start dir stages tree)

include h

theorem single_update (kept : stage'.Created → (stages i).Created) (j k : Nat)
    (hj : (Function.update stages i stage' j).Created)
    (hk : (Function.update stages i stage' k).Created) : j = k := by
  have hback : ∀ j, (Function.update stages i stage' j).Created → (stages j).Created :=
    (Function.forall_update_iff stages fun j stage => stage.Created → (stages j).Created).mpr
      ⟨kept, fun _ _ => id⟩
  exact h.single j k (hback j hj) (hback k hk)

theorem looked (next : ¬ stage'.Created) (knows : Knows dir tree stage') :
    Contested start dir (Function.update stages i stage') tree := by
  have hkept : stage'.Created → (stages i).Created := fun hcreated => absurd hcreated next
  have hsingle := h.single_update hkept
  obtain ⟨grown, hknows, _⟩ := h
  refine ⟨?_, ?_, hsingle⟩
  · cases grown with
    | founded founded none =>
        refine .founded founded ?_
        exact (Function.forall_update_iff stages fun _ stage => ¬ stage.Created).mpr
          ⟨next, fun j _ => none j⟩
    | @created _ _ part ground whole =>
        refine .created ground ?_
        refine (Function.forall_update_iff stages fun _ stage =>
          stage = .written → part = Text.octets Bootstrap.sql).mpr ⟨?_, fun j _ => whole j⟩
        rintro rfl
        exact absurd trivial next
  · exact (Function.forall_update_iff stages fun _ stage => Knows dir tree stage).mpr
      ⟨knows, fun j _ => hknows j⟩

theorem made {path : Path} (above : path ∈ dir.ancestors) (hmade : tree.makeDir path = .ok after) :
    Contested start dir stages after := by
  have habsent : ∀ loc, ¬ tree.Denotes dir loc := by
    intro loc hloc
    obtain ⟨mid, hmid⟩ := ancestors_lead hloc.leads path above
    exact Tree.makeDir_of_leads hmid hmade
  obtain ⟨grown, knows, single⟩ := h
  refine ⟨?_, ?_, single⟩
  · cases grown with
    | founded founded none =>
        obtain ⟨name, parent, hfits, hdir, hfresh, rfl⟩ := Tree.makeDir_spec hmade
        exact .founded (founded.add hfits hdir hfresh) none
    | created ground _ => exact absurd (ground.denotes_added _) (habsent _)
  · intro j
    have hj := knows j
    cases hstage : stages j with
    | scanning listed read =>
        rw [hstage] at hj
        obtain ⟨loc, hloc, _⟩ := hj
        exact absurd hloc (habsent loc)
    | _ => trivial

/-- The file is created only where no other setup has created it. -/
theorem created {listed : List Name} {read : List Path} (hstage : stages i = .scanning listed read)
    (cleared : Stage.Cleared dir listed read)
    (hcreate : tree.create (dir.join bootstrapName) = .ok after) :
    Contested start dir (Function.update stages i .writing) after := by
  obtain ⟨grown, knows, _⟩ := h
  cases grown with
  | created ground _ =>
      obtain ⟨_, _, hfresh, _⟩ :=
        Tree.create_entry (ground.enters.mono (Tree.keeps_add _ _ _)) hcreate
      cases hfresh.symm.trans (Tree.get?_add_self ground.fresh)
  | founded founded none =>
      have hown : Knows dir tree (.scanning listed read) := hstage ▸ knows i
      obtain ⟨loc, ground, rfl⟩ := ground_of_create founded hown cleared hcreate
      have honly : ∀ j, (Function.update stages i .writing j).Created → j = i :=
        (Function.forall_update_iff stages fun j stage => stage.Created → j = i).mpr
          ⟨fun _ => rfl, fun j _ hj => absurd hj (none j)⟩
      refine ⟨.created ground ?_, ?_, fun j k hj hk => (honly j hj).trans (honly k hk).symm⟩
      · refine (Function.forall_update_iff stages fun _ stage =>
          stage = .written → [] = Text.octets Bootstrap.sql).mpr ⟨nofun, ?_⟩
        intro j _ hwritten
        exact absurd (hwritten ▸ trivial) (none j)
      · refine (Function.forall_update_iff stages fun _ stage => Knows dir _ stage).mpr
          ⟨trivial, fun j _ => (knows j).of_entries ?_ ?_⟩
        · exact fun loc' hloc' => hloc'.mono (Tree.keeps_add _ _ _)
        · exact fun loc' _ x hx hother => (mem_entriesIn_added hother).mp hx

/-- Whatever has been written is in the file of the one setup that has created it. -/
theorem filled {content : Octets} (hstage : stages i = .writing)
    (hfill : tree.fill (dir.join bootstrapName) content = .ok after) (next : stage'.Created)
    (whole : stage' = .written → content = Text.octets Bootstrap.sql) :
    Contested start dir (Function.update stages i stage') after := by
  have hcreated : (stages i).Created := hstage ▸ trivial
  have hkept : stage'.Created → (stages i).Created := fun _ => hcreated
  have hsingle := h.single_update hkept
  obtain ⟨grown, knows, single⟩ := h
  cases grown with
  | founded _ none => exact absurd hcreated (none i)
  | created ground _ =>
      rw [ground.fill_eq] at hfill
      cases hfill
      refine ⟨.created ground ?_, ?_, hsingle⟩
      · refine (Function.forall_update_iff stages fun _ stage =>
          stage = .written → content = Text.octets Bootstrap.sql).mpr ⟨whole, ?_⟩
        intro j hother hwritten
        exact absurd (single j i (hwritten ▸ trivial) hcreated) hother
      · exact (Function.forall_update_iff stages fun _ stage => Knows dir _ stage).mpr
          ⟨.of_created next, fun j _ => ground.knows _ _ (knows j)⟩

theorem change (hstage : stages i = stage) (change : Change dir tree stage stage' after) :
    Contested start dir (Function.update stages i stage') after := by
  cases change with
  | none =>
      rw [← hstage, Function.update_eq_self]
      exact h
  | looked next knows => exact h.looked next knows
  | made above hmade =>
      rw [← hstage, Function.update_eq_self]
      exact h.made above hmade
  | created cleared hcreate => exact h.created hstage cleared hcreate
  | torn hfill => exact h.filled hstage hfill trivial nofun
  | written hfill => exact h.filled hstage hfill trivial fun _ => rfl

end Contested

/-! ## All setups -/

/-- Each setup keeps to the rule from the stage that it has come to. -/
structure Rivals (start : Tree) (dir : Path) (crew : Crew (Except Failure Path))
    (stages : Nat → Stage) : Prop where
  contested : Contested start dir stages crew.tree
  keeping : ∀ i p, crew.rest[i]? = some p →
    Program.Meets (Stage.around dir) p (Stage.Ended dir) (stages i)

namespace Rivals

variable {crew crew' : Crew (Except Failure Path)}

theorem first (start : Tree) (dir : Path) (n : Nat) :
    Rivals start dir ⟨start, List.replicate n (setUp dir).run⟩ fun _ => .making where
  contested := .first start dir
  keeping := by
    intro i p hp
    rw [List.eq_of_mem_replicate (List.mem_of_getElem? hp)]
    exact Stage.meets_setUp dir

theorem keeping_set (h : Rivals start dir crew stages) {p : Program host (Except Failure Path)}
    (own : Program.Meets (Stage.around dir) p (Stage.Ended dir) stage') (j : Nat)
    (q : Program host (Except Failure Path)) (hq : (crew.rest.set i p)[j]? = some q) :
    Program.Meets (Stage.around dir) q (Stage.Ended dir) (Function.update stages i stage' j) := by
  by_cases hji : j = i
  · subst hji
    have hlt : j < (crew.rest.set j p).length := (List.getElem?_eq_some_iff.mp hq).1
    rw [List.length_set] at hlt
    rw [List.getElem?_set_self hlt] at hq
    rw [Function.update_self, ← Option.some.inj hq]
    exact own
  · rw [List.getElem?_set_ne (Ne.symm hji)] at hq
    rw [Function.update_of_ne hji]
    exact h.keeping j q hq

theorem step (proper : start.Proper) (h : ∃ stages, Rivals start dir crew stages)
    (step : Crew.Step crew crew') : ∃ stages, Rivals start dir crew' stages := by
  obtain ⟨stages, h⟩ := h
  cases step with
  | @answered _ _ _ i request _ answer now turn answers =>
      obtain ⟨hrule, hnext⟩ := h.keeping i _ turn
      have hchange := change_of_rule (h.contested.grown.proper proper) (h.contested.knows i) hrule
        answers
      exact ⟨_, h.contested.change rfl hchange, h.keeping_set (hnext answer _ rfl)⟩
  | @listed tree _ i path _ listing turn =>
      obtain ⟨hrule, hnext⟩ := h.keeping i _ turn
      obtain ⟨hstage, rfl⟩ := hrule.list_inv
      have hchange : Change path tree .making
          (Stage.after .making (.files (.list path)) (listing.sight tree (.list path))) tree := by
        -- No stage depends on the order in which names are listed.
        refine change_of_list ?_
        intro names hnames
        obtain ⟨found, hfound, rfl⟩ := Listing.exists_listed hnames
        exact ⟨found, hfound, (listing.perm found).symm.subset⟩
      rw [hstage] at hnext
      exact ⟨_, h.contested.change hstage hchange, h.keeping_set (hnext _ _ rfl)⟩
  | @writing _ _ _ i _ _ _ _ turn _ written =>
      obtain ⟨hrule, _⟩ := h.keeping i _ turn
      obtain ⟨hstage, rfl, _⟩ := hrule.fill_inv
      have hcontested := h.contested.change hstage (.torn written)
      -- With a part of the file written, the setup is still at the stage of writing.
      rw [← hstage, Function.update_eq_self] at hcontested
      exact ⟨stages, hcontested, h.keeping⟩

theorem reached (proper : start.Proper) {n : Nat}
    (reaches : Crew.Reaches ⟨start, List.replicate n (setUp dir).run⟩ crew) :
    ∃ stages, Rivals start dir crew stages := by
  induction reaches with
  | refl => exact ⟨_, first start dir n⟩
  | tail _ hstep ih => exact step proper ih hstep

end Rivals

namespace Rivals

variable {crew : Crew (Except Failure Path)} (h : Rivals start dir crew stages)

include h

theorem stage_of_ok {path : Path} (hdone : crew.result? i = some (.ok path)) :
    path = dir.join bootstrapName ∧ stages i = .written := h.keeping i _ (Crew.result?_eq_some.mp hdone)

/-- Where a setup has succeeded, its whole file is in the directory, and nothing else is new. -/
theorem exists_ground {path : Path} (hdone : crew.result? i = some (.ok path)) :
    ∃ base loc, Ground start base dir loc ∧
      crew.tree = base.add (bootstrapName :: loc) (.file (Text.octets Bootstrap.sql)) := by
  obtain ⟨_, hstage⟩ := h.stage_of_ok hdone
  have hcreated : (stages i).Created := hstage ▸ trivial
  obtain ⟨tree, rest⟩ := crew
  have hgrown : Grown start dir stages tree := h.contested.grown
  cases hgrown with
  | founded _ none => exact absurd hcreated (none i)
  | created ground whole =>
      rw [whole i hstage]
      exact ⟨_, _, ground, rfl⟩

theorem single {path path' : Path} {j : Nat} (hi : crew.result? i = some (.ok path))
    (hj : crew.result? j = some (.ok path')) : i = j := by
  obtain ⟨_, hi⟩ := h.stage_of_ok hi
  obtain ⟨_, hj⟩ := h.stage_of_ok hj
  exact h.contested.single i j (hi ▸ trivial) (hj ▸ trivial)

end Rivals

/-! ## What they come to -/

/-- What several setups of one directory have come to, when any of their calls have been answered. -/
structure Contest (start : Tree) (dir : Path) (crew : Crew (Except Failure Path)) : Prop where
  /-- At most one succeeds: all others that have ended have failed. -/
  single : ∀ i path, crew.result? i = some (.ok path) →
    ∀ j result, crew.result? j = some result → j ≠ i → ∃ failure, result = .error failure
  /-- None succeeds if there was a migration with ID 0. -/
  taken : ∀ loc, crew.tree.resolve dir = .ok loc → crew.tree.isDirectory loc = true →
    (∃ name ∈ start.names loc, Announces name .first) →
    ∀ i result, crew.result? i = some result → ∃ failure, result = .error failure
  /-- A directory that was there is still the one that the path names. -/
  stays : ∀ loc, start.resolve dir = .ok loc → start.isDirectory loc = true →
    crew.tree.resolve dir = .ok loc ∧ crew.tree.isDirectory loc = true
  /-- All that was there is as it was. -/
  kept : ∀ loc entry, start.get? loc = some entry → crew.tree.get? loc = some entry
  /-- If one has succeeded, its file is all that has been added to the directory. -/
  written : ∀ i path, crew.result? i = some (.ok path) →
    path = dir.join (Text.octets "0-init.sql") ∧ ∃ loc, crew.tree.resolve dir = .ok loc ∧
      crew.tree.isDirectory loc = true ∧ (∀ name ∈ start.names loc, ¬ Announces name .first) ∧
      Announces (Text.octets "0-init.sql") .first ∧ crew.tree.entriesIn loc =
        start.entriesIn loc ++ [(Text.octets "0-init.sql", .file (Text.octets Bootstrap.sql))]
  /-- However far they have come, all of them can end. -/
  ends : ∃ last, crew.Reaches last ∧ ∀ i < crew.rest.length, (last.result? i).isSome

/-- Of any number of setups of one directory, in whatever order their calls are answered, at most one
succeeds. What was in the tree stays as it was, and nothing is new in the directory but the file of
the one that has succeeded. -/
theorem one_setUp_writes (proper : start.Proper) {n : Nat} {crew : Crew (Except Failure Path)}
    (reaches : Crew.Reaches ⟨start, List.replicate n (setUp dir).run⟩ crew) :
    Contest start dir crew := by
  obtain ⟨stages, h⟩ := Rivals.reached proper reaches
  refine ⟨?single, ?taken, ?stays, fun _ _ => h.contested.grown.get?_eq, ?written,
    crew.exists_ended⟩
  case single =>
    intro i path hi j result hj hother
    cases result with
    | error failure => exact ⟨failure, rfl⟩
    | ok path' => exact absurd (h.single hj hi) hother
  case taken =>
    rintro loc hresolve hdir ⟨name, hname, hannounces⟩ i result hi
    cases result with
    | error failure => exact ⟨failure, rfl⟩
    | ok path =>
        obtain ⟨base, loc', ground, htree⟩ := h.exists_ground hi
        have hdenotes := Tree.denotes_iff.mpr ⟨hresolve, hdir⟩
        rw [htree] at hdenotes
        rw [hdenotes.unique (ground.denotes_added _)] at hname
        exact absurd hannounces (ground.vacant name hname)
  case stays =>
    intro loc hresolve hdir
    have hdenotes := Tree.denotes_iff.mpr ⟨hresolve, hdir⟩
    exact Tree.denotes_iff.mp (hdenotes.mono h.contested.grown.keeps)
  case written =>
    intro i path hi
    obtain ⟨base, loc, ground, htree⟩ := h.exists_ground hi
    obtain ⟨hresolve, hdir⟩ := Tree.denotes_iff.mp (ground.denotes_added _)
    rw [← htree] at hresolve hdir
    refine ⟨(h.stage_of_ok hi).1, loc, hresolve, hdir, ground.vacant, bootstrapName_announces, ?_⟩
    rw [htree, Tree.entriesIn_add, if_pos rfl, ground.entries]
    rfl

/-! ## Two setups -/

/-- Two setups of an empty directory. Both list it before the first of them creates its file. -/
def overlapping : Crew (Except Failure Path) :=
  Crew.turns 0 ⟨filled [], List.replicate 2 (setUp (.ofText "m")).run⟩ [0, 0, 0, 1, 1, 1, 0, 1, 0, 0]

theorem one_setUp_writes_overlapping :
    overlapping.result? 0 = some (.ok (.ofText "m/0-init.sql")) ∧
      overlapping.result? 1 = some (.error (.creating (.ofText "m/0-init.sql") .alreadyExists)) ∧
      Contest (filled []) (.ofText "m") overlapping :=
  ⟨by decide +kernel, by decide +kernel,
    one_setUp_writes filled_nil_proper (Crew.turns_reaches _ _)⟩

end SchemaLedger.Directory
