import SchemaLedger.Apply.Run
import SchemaLedger.Files.Answer
import SchemaLedger.Proofs.Requests
import SchemaLedger.Proofs.Surroundings

/-! # What a run sees of the files

A run of migrations changes no files. Where the files stay as they are, it is a program that talks
to the store alone: every other request has one answer. -/

namespace SchemaLedger

/-- One answer to each call on files, the same whenever it is made. -/
abbrev Files.Sight := (call : Files.Call) → call.Answer

namespace Files.Sight

def ofTree (tree : Tree) : Sight := fun call => (tree.answer call).1

def reply (sight : Sight) : (request : Host.Call) → request.Answer
  | .files call => sight call
  | .store call => call.failed (.backend "no store")
  | .now => 0
  | .note _ => ()
  | .print _ => ()
  | .connect _ => .ok ()
  | .disconnect => ()

def handler (sight : Sight) : Handler host Unit := fun request _ => (sight.reply request, ())

/-- Passes calls to the store on and answers all else. -/
def respond (sight : Sight) : (request : Host.Call) → Program Store.calls request.Answer
  | .store call => Program.request (I := Store.calls) call
  | request => .done (sight.reply request)

theorem store_or_beside (request : Host.Call) :
    (∃ call, request = .store call) ∨ ∀ call, request ≠ .store call := by
  cases request with
  | store call => exact .inl ⟨call, rfl⟩
  | _ => exact .inr nofun

theorem respond_beside (sight : Sight) {request : Host.Call}
    (beside : ∀ call, request ≠ .store call) :
    sight.respond request = .done (sight.reply request) := by
  cases request with
  | store call => exact absurd rfl (beside call)
  | _ => rfl

end Files.Sight

def Program.onStore {α : Type} (sight : Files.Sight) (p : Program host α) :
    Program Store.calls α :=
  p.perform sight.respond

/-- The migrations of a directory as they are seen, or why it cannot be scanned. -/
def Directory.seen (sight : Files.Sight) (dir : Path) : Except Failure (List Migration) :=
  (Program.run sight.handler (scan dir).run ()).1

/-- Surroundings of the store, completed by a sight of the files. -/
def Surroundings.host {S : Type} (around : Surroundings Store.calls S) (sight : Files.Sight) :
    Surroundings host S where
  allows
    | s, .store call => around.allows s call
    | _, _ => True
  answers
    | s, .store call, answer, after => around.answers s call answer after
    | s, request, answer, after => answer = sight.reply request ∧ after = s

namespace Program

variable {S α β : Type} {around : Surroundings Store.calls S} {sight : Files.Sight}

theorem onStore_bind (p : Program SchemaLedger.host α) (f : α → Program SchemaLedger.host β) :
    onStore sight (p.bind f) = (onStore sight p).bind fun value => onStore sight (f value) := by
  induction p with
  | done value => rfl
  | ask request next ih =>
      have hask : ∀ {γ : Type} (next : request.Answer → Program SchemaLedger.host γ),
          onStore sight (ask request next) =
            (sight.respond request).bind fun answer => onStore sight (next answer) := fun _ => rfl
      rw [ask_bind, hask, hask, bind_assoc]
      simp only [ih]

theorem onStore_beside (request : Host.Call) (beside : ∀ call, request ≠ .store call)
    (next : request.Answer → Program SchemaLedger.host α) :
    onStore sight (ask request next) = onStore sight (next (sight.reply request)) := by
  change (sight.respond request).bind _ = _
  rw [sight.respond_beside beside]
  rfl

theorem onStore_task {ε : Type} (task : Task ε α) (next : α → Task ε β) :
    onStore sight (task >>= next).run = (onStore sight task.run).bind fun result =>
      match result with
      | .ok value => onStore sight (next value).run
      | .error error => .done (.error error) := by
  rw [ExceptT.run_bind, Program.bind_eq, onStore_bind]
  congr 1
  funext result
  cases result <;> rfl

theorem onStore_note {ε : Type} (event : Event) (next : Unit → Task ε α) :
    onStore sight (Task.note event >>= next).run = onStore sight (next ()).run := rfl

theorem onStore_store {ε : Type} (call : Store.Call) (next : call.Answer → Task ε α) :
    onStore sight (Task.store call >>= next).run =
      ask (I := Store.calls) call fun answer => onStore sight (next answer).run := rfl

theorem meets_beside (request : Host.Call) (beside : ∀ call, request ≠ .store call)
    (next : request.Answer → Program SchemaLedger.host α) (ends : α → S → Prop) (s : S) :
    Meets (around.host sight) (ask request next) ends s ↔
      Meets (around.host sight) (next (sight.reply request)) ends s := by
  have hanswer : ∀ answer after, (around.host sight).answers s request answer after ↔
      answer = sight.reply request ∧ after = s := by
    cases request with
    | store call => exact absurd rfl (beside call)
    | _ => exact fun _ _ => Iff.rfl
  have hallows : (around.host sight).allows s request := by
    cases request with
    | store call => exact absurd rfl (beside call)
    | _ => trivial
  constructor
  · intro h
    exact h.2 _ s ((hanswer _ s).mpr ⟨rfl, rfl⟩)
  · intro h
    refine ⟨hallows, ?_⟩
    intro answer after ha
    obtain ⟨rfl, rfl⟩ := (hanswer answer after).mp ha
    exact h

/-- What a program asks of the store is what it asks of the surroundings besides the files. -/
theorem meets_onStore (p : Program SchemaLedger.host α) (ends : α → S → Prop) (s : S) :
    Meets around (onStore sight p) ends s ↔ Meets (around.host sight) p ends s := by
  induction p generalizing s with
  | done value => rfl
  | ask request next ih =>
      rcases Files.Sight.store_or_beside request with ⟨call, rfl⟩ | beside
      · have hask : onStore sight (ask (I := SchemaLedger.host) (.store call) next) =
            ask (I := Store.calls) call fun answer => onStore sight (next answer) := rfl
        rw [hask, meets_ask, meets_ask]
        simp only [ih, Surroundings.host]
      · rw [onStore_beside request beside, meets_beside request beside]
        exact ih _ s

end Program

/-! ## Scans -/

namespace Directory

/-- No store is asked for. -/
def aside : Surroundings host Unit where
  allows
    | _, .store _ => False
    | _, _ => True
  answers _ _ _ _ := True

variable {S α : Type} {around : Surroundings Store.calls S} {sight : Files.Sight}

/-- Without calls to the store, a program ends as the sight has it. -/
theorem meets_of_aside {p : Program host α} (h : Program.Meets aside p (fun _ _ => True) ())
    (ends : α → S → Prop) (s : S) :
    Program.Meets (around.host sight) p ends s ↔ ends (Program.run sight.handler p ()).1 s := by
  induction p with
  | done value => rfl
  | ask request next ih =>
      have hnext : ∀ answer, Program.Meets aside (next answer) (fun _ _ => True) () :=
        fun answer => h.2 answer () trivial
      rw [Program.run_ask]
      rcases Files.Sight.store_or_beside request with ⟨call, rfl⟩ | beside
      · exact h.1.elim
      · exact (Program.meets_beside request beside next ends s).trans (ih _ (hnext _))

theorem onStore_of_aside {p : Program host α}
    (h : Program.Meets aside p (fun _ _ => True) ()) :
    Program.onStore sight p = .done (Program.run sight.handler p ()).1 := by
  induction p with
  | done value => rfl
  | ask request next ih =>
      rcases Files.Sight.store_or_beside request with ⟨call, rfl⟩ | beside
      · exact h.1.elim
      · rw [Program.onStore_beside request beside, ih _ (h.2 _ () trivial)]
        rfl

theorem meets_aside_of_looks {p : Program host α} (looks : Program.Asks Host.Call.Looks p) :
    Program.Meets aside p (fun _ _ => True) () := by
  induction p with
  | done value => trivial
  | ask request next ih =>
      refine ⟨?_, fun answer _ _ => ih answer (looks.2 answer)⟩
      cases request with
      | store call => exact looks.1.elim
      | _ => trivial

theorem scan_aside (dir : Path) : Program.Meets aside (scan dir).run (fun _ _ => True) () :=
  meets_aside_of_looks (scan_looks dir)

theorem onStore_scan (dir : Path) :
    Program.onStore sight (scan dir).run = .done (seen sight dir) :=
  onStore_of_aside (scan_aside dir)

theorem meets_scan (dir : Path) (ends : Except Failure (List Migration) → S → Prop) (s : S) :
    Program.Meets (around.host sight) (scan dir).run ends s ↔ ends (seen sight dir) s :=
  meets_of_aside (scan_aside dir) ends s

end Directory

end SchemaLedger
