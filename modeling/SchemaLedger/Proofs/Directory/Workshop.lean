import SchemaLedger.Directory.Author
import SchemaLedger.Proofs.Directory.Scan
import SchemaLedger.Proofs.Files.Entry

/-! # A file tree that nobody else changes

Calls on files are answered as the tree has it, or they are refused and have no effect. The writing
of a file is not refused, or else it may stop halfway. -/

namespace SchemaLedger

open Files (Call Fits IoError Location Tree)

/-- What a call that has no effect may be answered. -/
inductive Files.Refuses : (call : Call) → call.Answer → Prop
  | makeDir (path : Path) (error : IoError) : Refuses (.makeDir path) (.error error)
  | isDir (path : Path) : Refuses (.isDir path) false
  | list (path : Path) (error : IoError) : Refuses (.list path) (.error error)
  | read (path : Path) (error : IoError) : Refuses (.read path) (.error error)
  | create (path : Path) (error : IoError) : Refuses (.create path) (.error error)
  | rename (source target : Path) (error : IoError) : Refuses (.rename source target) (.error error)

def workshop (now : Int) : Surroundings host Tree where
  allows _ _ := True
  answers
    | tree, .files call, answer, after =>
      tree.answer call = (answer, after) ∨ Files.Refuses call answer ∧ after = tree
    | tree, .now, answer, after => answer = now ∧ after = tree
    | tree, _, _, after => after = tree

/-- What becomes of a tree when the writing of a file fails: what has been written is a beginning
of the content, unless nothing was touched at all. -/
inductive Files.Tears (tree : Tree) : (call : Call) → call.Answer → Tree → Prop
  | untouched (path : Path) (content : String) (error : IoError) :
    Tears tree (.fill path content) (.error error) tree
  | torn {path : Path} {content : String} {part : Octets} {after : Tree} (error : IoError)
    (begins : part <+: Text.octets content) (written : tree.fill path part = .ok after) :
    Tears tree (.fill path content) (.error error) after

/-- A tree that answers calls, at some time, where any call may fail. -/
def frailShop (now : Int) : Surroundings host Tree where
  allows _ _ := True
  answers
    | tree, .files call, answer, after =>
      (workshop now).answers tree (.files call) answer after ∨ Files.Tears tree call answer after
    | tree, request, answer, after => (workshop now).answers tree request answer after

/-- A tree that refuses nothing. -/
def atWork (now : Int) : Handler host Tree
  | .files call, tree => tree.answer call
  | .store call, tree => (call.failed (.backend "no store"), tree)
  | .now, tree => (now, tree)
  | .note _, tree => ((), tree)
  | .print _, tree => ((), tree)
  | .connect _, tree => (.ok (), tree)
  | .disconnect, tree => ((), tree)

theorem atWork_answers (now : Int) (tree : Tree) (request : Host.Call) :
    (workshop now).answers tree request (atWork now request tree).1 (atWork now request tree).2 := by
  cases request with
  | files call => exact .inl rfl
  | now => exact ⟨rfl, rfl⟩
  | _ => exact rfl

/-- A call that is to change the tree succeeds as the tree has it, or fails and changes nothing. -/
def Attempts (around : Surroundings host Tree) (tree : Tree) (call : Call)
    (succeeds : call.Answer → Tree → Prop) (fails : call.Answer → Prop) : Prop :=
  around.allows tree (.files call) ∧ ∀ answer after, around.answers tree (.files call) answer after →
    succeeds answer after ∨ fails answer ∧ after = tree

/-- Surroundings in which a tree serves all calls but those that list a directory or that read or
write a file. -/
structure Serves (around : Surroundings host Tree) : Prop where
  makeDir : ∀ tree path, Attempts around tree (.makeDir path)
    (fun answer after => answer = .ok () ∧ tree.makeDir path = .ok after)
    (fun answer => ∃ error, answer = .error error)
  create : ∀ tree path, Attempts around tree (.create path)
    (fun answer after => answer = .ok () ∧ tree.create path = .ok after)
    (fun answer => ∃ error, answer = .error error)
  rename : ∀ tree source target, Attempts around tree (.rename source target)
    (fun answer after => answer = .ok () ∧ tree.rename source target = .ok after)
    (fun answer => ∃ error, answer = .error error)
  isDir : ∀ tree path, Directory.Offers around tree (.files (.isDir path)) fun _ => True
  note : ∀ tree event, Directory.Offers around tree (.note event) fun _ => True

namespace Directory

variable {now : Int} {tree : Tree}

theorem shows_workshop (now : Int) (tree : Tree) :
    Shows (workshop now) (.ofTree tree) True tree where
  list := by
    refine fun dir => ⟨trivial, ?_⟩
    rintro answer after (hanswer | ⟨hrefused, rfl⟩)
    · cases hanswer
      exact ⟨.inl rfl, rfl⟩
    · cases hrefused with
      | list _ error => exact ⟨.inr ⟨trivial, error, rfl⟩, rfl⟩
  read := by
    refine fun path => ⟨trivial, ?_⟩
    rintro answer after (hanswer | ⟨hrefused, rfl⟩)
    · cases hanswer
      exact ⟨.inl rfl, rfl⟩
    · cases hrefused with
      | read _ error => exact ⟨.inr ⟨trivial, error, rfl⟩, rfl⟩
  note := fun _ => ⟨trivial, fun _ _ h => ⟨trivial, h⟩⟩

theorem change_cases {refuses : Except IoError Unit → Prop} {result : Except IoError Tree}
    {answer : Except IoError Unit} {after : Tree}
    (refused : ∀ answer, refuses answer → ∃ error, answer = .error error)
    (h : tree.changed result = (answer, after) ∨ refuses answer ∧ after = tree) :
    (answer = .ok () ∧ result = .ok after) ∨ (∃ error, answer = .error error) ∧ after = tree := by
  rcases h with hchanged | ⟨hrefused, hafter⟩
  · cases result with
    | ok next =>
        cases hchanged
        exact .inl ⟨rfl, rfl⟩
    | error error =>
        cases hchanged
        exact .inr ⟨⟨error, rfl⟩, rfl⟩
  · obtain ⟨error, herror⟩ := refused answer hrefused
    exact .inr ⟨⟨error, herror⟩, hafter⟩

theorem serves_workshop (now : Int) : Serves (workshop now) where
  makeDir := fun tree path => ⟨trivial, fun _ _ h => change_cases (by rintro _ ⟨⟩; exact ⟨_, rfl⟩) h⟩
  create := fun tree path => ⟨trivial, fun _ _ h => change_cases (by rintro _ ⟨⟩; exact ⟨_, rfl⟩) h⟩
  rename := fun tree source target =>
    ⟨trivial, fun _ _ h => change_cases (by rintro _ ⟨⟩; exact ⟨_, rfl⟩) h⟩
  isDir := by
    refine fun tree path => ⟨trivial, ?_⟩
    rintro answer after (hanswer | ⟨_, rfl⟩)
    · cases hanswer
      exact ⟨trivial, rfl⟩
    · exact ⟨trivial, rfl⟩
  note := fun _ _ => ⟨trivial, fun _ _ h => ⟨trivial, h⟩⟩

theorem clock_workshop (now : Int) (tree : Tree) : Offers (workshop now) tree .now (· = now) :=
  ⟨trivial, fun _ _ h => h⟩

/-- Only the writing of a file leaves something half done. -/
theorem answers_of_frail {call : Call} {answer : call.Answer} {after : Tree}
    (whole : ∀ path content, call ≠ .fill path content)
    (h : (frailShop now).answers tree (.files call) answer after) :
    (workshop now).answers tree (.files call) answer after := by
  rcases h with h | htears
  · exact h
  · cases htears with
    | untouched path content => exact absurd rfl (whole path content)
    | @torn path content => exact absurd rfl (whole path content)

theorem shows_frailShop (now : Int) (tree : Tree) :
    Shows (frailShop now) (.ofTree tree) True tree where
  list := fun dir =>
    ⟨trivial, fun _ _ h => ((shows_workshop now tree).list dir).2 _ _ (answers_of_frail nofun h)⟩
  read := fun path =>
    ⟨trivial, fun _ _ h => ((shows_workshop now tree).read path).2 _ _ (answers_of_frail nofun h)⟩
  note := (shows_workshop now tree).note

theorem serves_frailShop (now : Int) : Serves (frailShop now) where
  makeDir := fun tree path => ⟨trivial, fun _ _ h =>
    ((serves_workshop now).makeDir tree path).2 _ _ (answers_of_frail nofun h)⟩
  create := fun tree path => ⟨trivial, fun _ _ h =>
    ((serves_workshop now).create tree path).2 _ _ (answers_of_frail nofun h)⟩
  rename := fun tree source target => ⟨trivial, fun _ _ h =>
    ((serves_workshop now).rename tree source target).2 _ _ (answers_of_frail nofun h)⟩
  isDir := fun tree path => ⟨trivial, fun _ _ h =>
    ((serves_workshop now).isDir tree path).2 _ _ (answers_of_frail nofun h)⟩
  note := (serves_workshop now).note

theorem clock_frailShop (now : Int) (tree : Tree) : Offers (frailShop now) tree .now (· = now) :=
  clock_workshop now tree

theorem atWork_answers_frail (now : Int) (tree : Tree) (request : Host.Call) :
    (frailShop now).answers tree request (atWork now request tree).1 (atWork now request tree).2 := by
  cases request with
  | files call => exact .inl (atWork_answers now tree (.files call))
  | now => exact ⟨rfl, rfl⟩
  | _ => exact rfl

theorem run_scan {dir : Path} {found : List Migration} (finds : Finds (.ofTree tree) dir found) :
    Program.run (atWork now) (scan dir).run tree = (.ok found, tree) := by
  let around : Surroundings host Tree :=
    ⟨fun _ _ => True, fun tree request answer after => atWork now request tree = (answer, after)⟩
  have hshows : Shows around (.ofTree tree) False tree := by
    refine ⟨fun dir => ⟨trivial, ?_⟩, fun path => ⟨trivial, ?_⟩, fun event => ⟨trivial, ?_⟩⟩
    · rintro answer after ⟨⟩
      exact ⟨.inl rfl, rfl⟩
    · rintro answer after ⟨⟩
      exact ⟨.inl rfl, rfl⟩
    · rintro answer after ⟨⟩
      exact ⟨trivial, rfl⟩
  have hmeets : Program.Meets around (scan dir).run
      (fun result after => result = .ok found ∧ after = tree) tree := by
    refine meets_scanning hshows dir (fun ms hms => ⟨by rw [hms.unique finds], rfl⟩) ?_
    rintro failure (hfaulty | hnone)
    · exact hfaulty.elim
    · exact absurd finds (hnone found)
  obtain ⟨hresult, hafter⟩ := hmeets.run fun _ _ => rfl
  exact Prod.ext hresult hafter

/-! ## Single calls -/

section Calls

variable {ε : Type}

variable {around : Surroundings host Tree}

theorem meets_attempt {call : Call} {succeeds : call.Answer → Tree → Prop}
    {fails : call.Answer → Prop} (h : Attempts around tree call succeeds fails)
    {ends : Except ε call.Answer → Tree → Prop}
    (hok : ∀ answer after, succeeds answer after → ends (.ok answer) after)
    (herror : ∀ answer, fails answer → ends (.ok answer) tree) :
    Program.Meets around (Task.files call : Task ε _).run ends tree := by
  rw [Task.meets_files]
  refine ⟨h.1, ?_⟩
  intro answer after hanswer
  rcases h.2 answer after hanswer with hsucceeds | ⟨hfails, rfl⟩
  · exact hok answer after hsucceeds
  · exact herror answer hfails

section Serves

variable (serves : Serves around)

include serves

theorem meets_create {path : Path} {ends : Except ε (Except IoError Unit) → Tree → Prop}
    (hok : ∀ after, tree.create path = .ok after → ends (.ok (.ok ())) after)
    (herror : ∀ error, ends (.ok (.error error)) tree) :
    Program.Meets around (Task.files (.create path) : Task ε _).run ends tree := by
  apply meets_attempt (serves.create tree path)
  · rintro _ after ⟨rfl, h⟩
    exact hok after h
  · rintro _ ⟨error, rfl⟩
    exact herror error

theorem meets_rename {source target : Path} {ends : Except ε (Except IoError Unit) → Tree → Prop}
    (hok : ∀ after, tree.rename source target = .ok after → ends (.ok (.ok ())) after)
    (herror : ∀ error, ends (.ok (.error error)) tree) :
    Program.Meets around (Task.files (.rename source target) : Task ε _).run ends tree := by
  apply meets_attempt (serves.rename tree source target)
  · rintro _ after ⟨rfl, h⟩
    exact hok after h
  · rintro _ ⟨error, rfl⟩
    exact herror error

theorem meets_noting (event : Event) {ends : Except ε Unit → Tree → Prop}
    (h : ends (.ok ()) tree) :
    Program.Meets around (Task.note event : Task ε _).run ends tree := by
  obtain ⟨hallowed, hanswers⟩ := serves.note tree event
  rw [Task.meets_note]
  refine ⟨hallowed, ?_⟩
  intro answer after hanswer
  obtain ⟨_, rfl⟩ := hanswers answer after hanswer
  exact h

end Serves

theorem meets_fill {path : Path} {content : String} {after : Tree}
    (hfilled : tree.fill path (Text.octets content) = .ok after)
    {ends : Except ε (Except IoError Unit) → Tree → Prop} (h : ends (.ok (.ok ())) after) :
    Program.Meets (workshop now) (Task.files (.fill path content) : Task ε _).run ends tree := by
  rw [Task.meets_files]
  refine ⟨trivial, ?_⟩
  rintro answer next (hanswer | ⟨hrefused, _⟩)
  · rw [Tree.answer, hfilled] at hanswer
    cases hanswer
    exact h
  · cases hrefused

/-- Wherever the writing of a file may stop, a beginning of the content is in the file. -/
theorem meets_tearing {path : Path} {content : String} {written : Octets → Tree}
    (hwritten : ∀ part, tree.fill path part = .ok (written part)) (hnone : tree = written [])
    {ends : Except ε (Except IoError Unit) → Tree → Prop}
    (whole : ends (.ok (.ok ())) (written (Text.octets content)))
    (torn : ∀ error part, part <+: Text.octets content →
      ends (.ok (.error error)) (written part)) :
    Program.Meets (frailShop now) (Task.files (.fill path content) : Task ε _).run ends tree := by
  rw [Task.meets_files]
  refine ⟨trivial, ?_⟩
  rintro answer after ((hanswer | ⟨hrefused, _⟩) | htears)
  · rw [Tree.answer, hwritten] at hanswer
    cases hanswer
    exact whole
  · cases hrefused
  · cases htears with
    | untouched =>
        rw [hnone]
        exact torn _ _ List.nil_prefix
    | torn error begins hpart =>
        cases (hwritten _).symm.trans hpart
        exact torn _ _ begins

end Calls

/-! ## Making directories -/

/-- What holds of a state lasts through a call, which is granted, whatever it is answered. -/
def Endures {S : Type} (around : Surroundings host S) (inv : S → Prop) (call : Call) : Prop :=
  ∀ s, inv s → around.allows s (.files call) ∧
    ∀ answer after, around.answers s (.files call) answer after → inv after

section MakeAll

variable {S : Type} {around : Surroundings host S} {inv : S → Prop} {known : Path → Prop} {s : S}

theorem meets_enduring {ε : Type} {call : Call} (endures : Endures around inv call) (hinv : inv s)
    {ends : Except ε call.Answer → S → Prop} (h : ∀ answer after, inv after → ends (.ok answer) after) :
    Program.Meets around (Task.files call : Task ε _).run ends s := by
  obtain ⟨hallowed, hanswers⟩ := endures s hinv
  rw [Task.meets_files]
  exact ⟨hallowed, fun answer after hanswer => h answer after (hanswers answer after hanswer)⟩

section Known

variable (makes : ∀ dir, known dir → Endures around inv (.makeDir dir))
variable (looks : ∀ dir, Endures around inv (.isDir dir))

include makes looks

theorem meets_makeOne {dir : Path} (hdir : known dir) (hinv : inv s) :
    Program.Meets around (makeOne dir).run (fun _ after => inv after) s := by
  rw [makeOne, Task.meets_bind]
  refine meets_enduring (makes dir hdir) hinv ?_
  intro answer after hafter
  rw [Task.Then]
  split
  · exact hafter
  · rw [Task.meets_bind]
    refine meets_enduring (looks dir) hafter ?_
    intro answer after hafter
    rw [Task.Then]
    split <;> exact hafter
  · exact hafter

theorem meets_makeEach {dirs : List Path} (hdirs : ∀ dir ∈ dirs, known dir) (hinv : inv s) :
    Program.Meets around (makeEach dirs).run (fun _ after => inv after) s := by
  induction dirs generalizing s with
  | nil => exact hinv
  | cons dir inner ih =>
      rw [makeEach, Task.meets_bind]
      refine (meets_makeOne makes looks (hdirs dir List.mem_cons_self) hinv).mono ?_
      intro result after hafter
      cases result with
      | error error => exact hafter
      | ok => exact ih (fun other hother => hdirs other (List.mem_cons_of_mem _ hother)) hafter

theorem meets_climb {missing dirs : List Path} (hmissing : ∀ dir ∈ missing, known dir)
    (hdirs : ∀ dir ∈ dirs, known dir) (hinv : inv s) :
    Program.Meets around (climb missing dirs).run (fun result after => inv after ∧
      ∀ found, result = .ok found → ∀ dir ∈ found, known dir) s := by
  induction dirs generalizing missing s with
  | nil => exact ⟨hinv, fun _ hfound => Except.ok.inj hfound ▸ hmissing⟩
  | cons dir outer ih =>
      have hdir := hdirs dir List.mem_cons_self
      rw [climb]
      split
      · exact ⟨hinv, fun _ hfound => Except.ok.inj hfound ▸ hmissing⟩
      · rw [Task.meets_bind]
        refine meets_enduring (makes dir hdir) hinv ?_
        intro answer after hafter
        rw [Task.Then]
        split
        · exact ⟨hafter, fun _ hfound => Except.ok.inj hfound ▸ hmissing⟩
        · refine ih ?_ (fun other hother => hdirs other (List.mem_cons_of_mem _ hother)) hafter
          intro other hother
          rcases List.mem_cons.mp hother with rfl | hother
          · exact hdir
          · exact hmissing other hother
        · rw [Task.meets_bind]
          refine meets_enduring (looks dir) hafter ?_
          intro answer after hafter
          rw [Task.Then]
          split
          · exact ⟨hafter, fun _ hfound => Except.ok.inj hfound ▸ hmissing⟩
          · exact ⟨hafter, fun _ hfound => by cases hfound⟩
        · exact ⟨hafter, fun _ hfound => by cases hfound⟩

end Known

theorem meets_makeAll_enduring {dir : Path}
    (makes : ∀ path ∈ dir.ancestors, Endures around inv (.makeDir path))
    (looks : ∀ path, Endures around inv (.isDir path)) (hinv : inv s) :
    Program.Meets around (makeAll dir).run (fun _ after => inv after) s := by
  rw [makeAll, Task.meets_bind]
  refine (meets_climb makes looks (by simp) (fun _ h => h) hinv).mono ?_
  rintro result after ⟨hafter, hfound⟩
  cases result with
  | error error => exact hafter
  | ok found => exact meets_makeEach makes looks (hfound found rfl) hafter

end MakeAll

/-- Making a directory and those above it keeps what is kept where a tree makes one of these. -/
theorem meets_makeAll {around : Surroundings host Tree} (serves : Serves around)
    {inv : Tree → Prop} {dir : Path} (hmake : ∀ path ∈ dir.ancestors, ∀ tree after, inv tree →
    tree.makeDir path = .ok after → inv after) (hinv : inv tree) :
    Program.Meets around (makeAll dir).run (fun _ after => inv after) tree := by
  refine meets_makeAll_enduring ?_ ?_ hinv
  · intro path hpath tree hinv
    obtain ⟨hallowed, hanswers⟩ := serves.makeDir tree path
    refine ⟨hallowed, fun answer after hanswer => ?_⟩
    rcases hanswers answer after hanswer with ⟨_, hmade⟩ | ⟨_, rfl⟩
    · exact hmake path hpath tree after hinv hmade
    · exact hinv
  · intro path tree hinv
    obtain ⟨hallowed, hanswers⟩ := serves.isDir tree path
    refine ⟨hallowed, fun answer after hanswer => ?_⟩
    obtain ⟨_, rfl⟩ := hanswers answer after hanswer
    exact hinv

/-! ## Where there is a directory already -/

/-- Whatever leads to a directory has led through directories. -/
theorem ancestors_lead {dir : Path} {loc : Location} (h : tree.Leads dir loc) :
    ∀ path ∈ dir.ancestors, ∃ mid, tree.Leads path mid := by
  have hclimb : ∀ n dir loc, tree.Leads dir loc → ∀ path ∈ Path.ancestors.climb n dir,
      ∃ mid, tree.Leads path mid := by
    intro n
    induction n with
    | zero =>
        intro dir loc h path hpath
        rw [List.mem_singleton.mp hpath]
        exact ⟨loc, h⟩
    | succ n ih =>
        intro dir loc h path hpath
        rw [Path.ancestors.climb] at hpath
        split at hpath
        · next outer hparent =>
            rcases List.mem_cons.mp hpath with rfl | hpath
            · exact ⟨loc, h⟩
            · obtain ⟨mid, hmid⟩ := h.parent hparent
              exact ih outer mid hmid path hpath
        · rw [List.mem_singleton.mp hpath]
          exact ⟨loc, h⟩
  exact hclimb _ dir loc h

/-- Where a path leads to a directory, making it changes nothing. -/
theorem meets_makeAll_of_leads {around : Surroundings host Tree} (serves : Serves around)
    {dir : Path} {loc : Location} (h : tree.Leads dir loc) :
    Program.Meets around (makeAll dir).run (fun _ after => after = tree) tree := by
  refine meets_makeAll serves ?_ rfl
  rintro path hpath _ after rfl hmade
  obtain ⟨mid, hmid⟩ := ancestors_lead h path hpath
  exact absurd hmade (Tree.makeDir_of_leads hmid)

/-! ## Where there is none yet -/

/-- A tree to which directories have been added. -/
inductive Founded (start : Tree) : Tree → Prop
  | start : Founded start start
  | add {tree : Tree} {name : Name} {parent : Location} (h : Founded start tree) (fits : Fits name)
      (dir : tree.isDirectory parent = true) (fresh : tree.get? (name :: parent) = none) :
    Founded start (tree.add (name :: parent) .directory)

namespace Founded

variable {start : Tree}

theorem grown (h : Founded start tree) : start.Extends tree := by
  induction h with
  | start => exact .refl start
  | add _ _ _ _ ih => exact ih.trans (Tree.extends_add _ _ _)

theorem keeps (h : Founded start tree) : start.Keeps tree := h.grown.keeps

theorem proper (h : Founded start tree) (proper : start.Proper) : tree.Proper := by
  induction h with
  | start => exact proper
  | add _ _ dir fresh ih => exact ih.add fresh dir _

theorem exists_added (h : Founded start tree) (loc : Location) : ∃ added,
    tree.entriesIn loc = start.entriesIn loc ++ added ∧ ∀ x ∈ added, x.2 = .directory ∧ Fits x.1 := by
  induction h with
  | start => exact ⟨[], (List.append_nil _).symm, nofun⟩
  | @add tree name parent _ fits _ _ ih =>
      obtain ⟨added, hentries, hadded⟩ := ih
      refine ⟨added ++ if parent = loc then [(name, .directory)] else [], ?_, ?_⟩
      · rw [Tree.entriesIn_add, hentries, List.append_assoc]
      · intro x hx
        rcases List.mem_append.mp hx with hx | hx
        · exact hadded x hx
        · split at hx
          · rw [List.mem_singleton.mp hx]
            exact ⟨rfl, fits⟩
          · cases hx

theorem meets_makeAll {around : Surroundings host Tree} (serves : Serves around)
    (h : Founded start tree) (dir : Path) :
    Program.Meets around (makeAll dir).run (fun _ after => Founded start after) tree := by
  refine Directory.meets_makeAll serves ?_ h
  intro path _ tree after htree hmade
  obtain ⟨name, parent, hfits, hdir, hfresh, rfl⟩ := Tree.makeDir_spec hmade
  exact htree.add hfits hdir hfresh

end Founded

end Directory

end SchemaLedger
