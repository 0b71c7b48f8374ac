import SchemaLedger.Proofs.Directory.Authoring

/-! # Writing new files

A new file is created before its content is written, so a file whose writing fails stays, with a
beginning of the content. -/

namespace SchemaLedger.Directory

open Files (IoError Location Tree)

variable {now : Int} {tree : Tree} {path dir : Path}

/-- A path at which a file can be created. -/
structure Opens (tree : Tree) (path : Path) (loc : Location) (name : Name) : Prop where
  enters : tree.Enters path loc name
  spelled : Tree.spelled path = .ok ()
  short : name.length ≤ Tree.nameLimit
  fresh : tree.get? (name :: loc) = none

theorem Opens.create_eq {loc : Location} {name : Name} (opens : Opens tree path loc name) :
    tree.create path = .ok (tree.add (name :: loc) (.file [])) := by
  rw [Tree.create, Tree.place_entry opens.enters, opens.spelled, opens.enters.1]
  simp [Except.bind, bind, Nat.not_lt.mpr opens.short, opens.fresh, Tree.put_fresh]

theorem Opens.run_writeNew {loc : Location} {name : Name} (opens : Opens tree path loc name)
    (content : String) :
    Program.run (atWork now) (writeNew path content).run tree =
      (.ok (), tree.add (name :: loc) (.file (Text.octets content))) := by
  have hcreate : atWork now (.files (.create path)) tree =
      (.ok (), tree.add (name :: loc) (.file [])) := by
    rw [atWork, Tree.answer, opens.create_eq]
    rfl
  have hfill : atWork now (.files (.fill path content)) (tree.add (name :: loc) (.file [])) =
      (.ok (), tree.add (name :: loc) (.file (Text.octets content))) := by
    rw [atWork, Tree.answer, Tree.fill_added opens.enters opens.spelled opens.short opens.fresh]
    rfl
  rw [writeNew, Task.run_bind, Task.run_files, hcreate]
  dsimp only
  rw [Task.run_bind, Task.run_ofExcept]
  dsimp only [Except.mapError]
  rw [Task.run_bind, Task.run_files, hfill]
  rfl

theorem Opens.run_newFile {loc : Location} {ms : List Migration} {id : Ident}
    {description name : String} (opens : Opens tree (dir.join (Text.octets name)) loc
      (Text.octets name)) (finds : Finds (.ofTree tree) dir ms)
    (named : FileName.write (Migration.maxWidth ms) id (Slug.ofText description) = name)
    (new : vacant id name ms = .ok ()) (template? : Option String) :
    Program.run (atWork now) (newFile dir (some id) description template?).run tree =
      (.ok (dir.join (Text.octets name)), tree.add (Text.octets name :: loc)
        (.file (Text.octets (template?.getD Bootstrap.placeholder)))) := by
  rw [newFile, Task.run_bind, Task.run_pure]
  dsimp only
  rw [Task.run_bind, run_scan finds]
  dsimp only
  rw [named, Task.run_bind, Task.run_ofExcept, new]
  dsimp only [Except.mapError]
  rw [Task.run_bind, opens.run_writeNew]
  rfl

/-- How the writing of a new file may end. -/
inductive Written (tree : Tree) (path : Path) (content : String) :
    Except Failure Unit → Tree → Prop
  | refused (error : IoError) : Written tree path content (.error (.creating path error)) tree
  | torn {loc : Location} {name : Name} {part : Octets} (opens : Opens tree path loc name)
      (error : IoError) (begins : part <+: Text.octets content) :
      Written tree path content (.error (.writing path error))
        (tree.add (name :: loc) (.file part))
  | whole {loc : Location} {name : Name} (opens : Opens tree path loc name) :
      Written tree path content (.ok ())
        (tree.add (name :: loc) (.file (Text.octets content)))

theorem meets_writing (tree : Tree) (path : Path) (content : String) :
    Program.Meets (frailShop now) (writeNew path content).run (Written tree path content) tree := by
  rw [writeNew, Task.meets_bind]
  refine meets_create (serves_frailShop now) ?_ fun error => .refused error
  intro after hcreated
  obtain ⟨loc, name, henters⟩ := Tree.enters_of_create hcreated
  obtain ⟨hspelled, hshort, hfresh, rfl⟩ := Tree.create_entry henters hcreated
  have hopens : Opens tree path loc name := ⟨henters, hspelled, hshort, hfresh⟩
  rw [Task.Then, Task.meets_ofExcept_ok, Task.meets_bind]
  exact meets_tearing (Tree.fill_added henters hspelled hshort hfresh []) rfl (.whole hopens)
    fun error _ begins => .torn hopens error begins

end SchemaLedger.Directory
