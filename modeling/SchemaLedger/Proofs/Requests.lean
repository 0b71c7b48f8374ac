import SchemaLedger.Apply.Run
import SchemaLedger.Directory.Author
import SchemaLedger.Directory.Renumber

/-! # What programs ask for

A program that asks only for some things runs alike wherever these are answered alike. A scan looks
at a directory and at its files; nothing else lists a directory. -/

namespace SchemaLedger

namespace Program

variable {I : Interface} {α β : Type} {allowed : I.Request → Prop}

/-- All that a program may ask for, whatever it is answered, is allowed. -/
def Asks (allowed : I.Request → Prop) : Program I α → Prop
  | done _ => True
  | ask request next => allowed request ∧ ∀ answer, Asks allowed (next answer)

theorem Asks.bind {p : Program I α} {f : α → Program I β} (first : Asks allowed p)
    (rest : ∀ value, Asks allowed (f value)) : Asks allowed (p.bind f) := by
  induction p with
  | done value => exact rest value
  | ask request next ih => exact ⟨first.1, fun answer => ih answer (first.2 answer)⟩

theorem Asks.mono {wider : I.Request → Prop} {p : Program I α} (asks : Asks allowed p)
    (h : ∀ request, allowed request → wider request) : Asks wider p := by
  induction p with
  | done value => exact trivial
  | ask request next ih => exact ⟨h request asks.1, fun answer => ih answer (asks.2 answer)⟩

/-- Where all that is asked for is answered alike in related states, runs end alike. -/
theorem Asks.run_agree {S T : Type} {p : Program I α} (asks : Asks allowed p)
    (handle : Handler I S) (handle' : Handler I T) (related : S → T → Prop)
    (agree : ∀ request, allowed request → ∀ s t, related s t →
      (handle request s).1 = (handle' request t).1 ∧
        related (handle request s).2 (handle' request t).2)
    {s : S} {t : T} (start : related s t) :
    (run handle p s).1 = (run handle' p t).1 ∧
      related (run handle p s).2 (run handle' p t).2 := by
  induction p generalizing s t with
  | done value => exact ⟨rfl, start⟩
  | ask request next ih =>
      obtain ⟨hanswer, hrelated⟩ := agree request asks.1 s t start
      rw [run_ask, run_ask, hanswer]
      exact ih _ (asks.2 _) hrelated

end Program

namespace Task

open Program (Asks)

variable {ε δ α β : Type} {allowed : Host.Call → Prop}

theorem asks_bind {task : Task ε α} {next : α → Task ε β} (first : Asks allowed task.run)
    (rest : ∀ value, Asks allowed (next value).run) : Asks allowed (task >>= next).run := by
  rw [ExceptT.run_bind]
  refine Asks.bind first ?_
  intro result
  cases result with
  | ok value => exact rest value
  | error error => exact trivial

theorem asks_ofExcept (wrap : δ → ε) (result : Except δ α) :
    Asks allowed (ofExcept wrap result : Task ε α).run := by
  cases result <;> exact trivial

theorem asks_adapt {task : Task δ α} (wrap : δ → ε) (h : Asks allowed task.run) :
    Asks allowed (task.adapt wrap).run := Asks.bind h fun _ => trivial

theorem asks_files {call : Files.Call} (h : allowed (.files call)) :
    Asks allowed (files call : Task ε call.Answer).run := ⟨h, fun _ => trivial⟩

theorem asks_store {call : Store.Call} (h : allowed (.store call)) :
    Asks allowed (store call : Task ε call.Answer).run := ⟨h, fun _ => trivial⟩

theorem asks_note {event : Event} (h : allowed (.note event)) :
    Asks allowed (note event : Task ε Unit).run := ⟨h, fun _ => trivial⟩

end Task

/-! ## Scans -/

/-- What is asked in order to see what there is. -/
def Host.Call.Looks : Host.Call → Prop
  | .files (.list _) | .files (.read _) | .note _ => True
  | _ => False

namespace Directory

open Program (Asks)

theorem readEntry_looks (dir : Path) (entry : Name) :
    Asks Host.Call.Looks (readEntry dir entry).run := by
  refine Task.asks_bind (Task.asks_ofExcept _ _) fun heading => ?_
  refine Task.asks_bind (Task.asks_adapt _ ?_) fun content => ?_
  · refine Task.asks_bind (Task.asks_files trivial) fun _ => ?_
    exact Task.asks_bind (Task.asks_ofExcept _ _) fun _ => Task.asks_ofExcept _ _
  · exact Task.asks_bind (Task.asks_note trivial) fun _ => trivial

theorem readEntries_looks (dir : Path) (entries : List Name) :
    Asks Host.Call.Looks (readEntries dir entries).run := by
  induction entries with
  | nil => exact trivial
  | cons entry rest ih =>
      refine Task.asks_bind (readEntry_looks dir entry) fun _ => ?_
      exact Task.asks_bind ih fun _ => trivial

theorem scan_looks (dir : Path) : Asks Host.Call.Looks (scan dir).run := by
  refine Task.asks_bind (Task.asks_files trivial) fun _ => ?_
  refine Task.asks_bind (Task.asks_ofExcept _ _) fun entries => ?_
  exact Task.asks_bind (readEntries_looks dir entries) fun _ => Task.asks_ofExcept _ _

end Directory

/-! ## Everything else -/

def Host.Call.Unlisted (request : Host.Call) : Prop := ∀ dir, request ≠ .files (.list dir)

namespace Directory

open Program (Asks)

theorem makeOne_unlisted (dir : Path) : Asks Host.Call.Unlisted (makeOne dir).run := by
  refine Task.asks_bind (Task.asks_files nofun) fun answer => ?_
  split
  · exact trivial
  · refine Task.asks_bind (Task.asks_files nofun) fun present => ?_
    split <;> exact trivial
  · exact trivial

theorem climb_unlisted (missing dirs : List Path) :
    Asks Host.Call.Unlisted (climb missing dirs).run := by
  induction dirs generalizing missing with
  | nil => exact trivial
  | cons dir outer ih =>
      rw [climb]
      split
      · exact trivial
      · refine Task.asks_bind (Task.asks_files nofun) fun answer => ?_
        split
        · exact trivial
        · exact ih _
        · refine Task.asks_bind (Task.asks_files nofun) fun present => ?_
          split <;> exact trivial
        · exact trivial

theorem makeEach_unlisted (dirs : List Path) : Asks Host.Call.Unlisted (makeEach dirs).run := by
  induction dirs with
  | nil => exact trivial
  | cons dir inner ih => exact Task.asks_bind (makeOne_unlisted dir) fun _ => ih

theorem makeAll_unlisted (dir : Path) : Asks Host.Call.Unlisted (makeAll dir).run :=
  Task.asks_bind (climb_unlisted _ _) fun missing => makeEach_unlisted missing

theorem writeNew_asks {allowed : Host.Call → Prop} {path : Path} {content : String}
    (create : allowed (.files (.create path))) (fill : allowed (.files (.fill path content))) :
    Asks allowed (writeNew path content).run := by
  refine Task.asks_bind (Task.asks_files create) fun _ => ?_
  refine Task.asks_bind (Task.asks_ofExcept _ _) fun _ => ?_
  exact Task.asks_bind (Task.asks_files fill) fun _ => Task.asks_ofExcept _ _

theorem writeNew_unlisted (path : Path) (content : String) :
    Asks Host.Call.Unlisted (writeNew path content).run := writeNew_asks nofun nofun

theorem renameEach_unlisted (rs : List Renaming) :
    Asks Host.Call.Unlisted (renameEach rs).run := by
  induction rs with
  | nil => exact trivial
  | cons r rest ih =>
      refine Task.asks_bind (Task.asks_files nofun) fun _ => ?_
      refine Task.asks_bind (Task.asks_ofExcept _ _) fun _ => ?_
      exact Task.asks_bind (Task.asks_note nofun) fun _ => ih

end Directory

/-! ## Runs -/

namespace Apply

open Program (Asks)

section Asks

variable {allowed : Host.Call → Prop} (store : ∀ call, allowed (.store call))
  (note : ∀ event, allowed (.note event))

include store note

theorem applied_asks : Asks allowed applied.run := by
  refine Task.asks_bind (Task.asks_store (store _)) fun answer => ?_
  split
  · exact trivial
  · exact Task.asks_bind (Task.asks_note (note _)) fun _ => trivial
  · exact trivial

theorem abort_asks (tx : Store.Tx) (m : Migration) (failure : Failure) :
    Asks allowed (abort tx m failure).run := by
  refine Task.asks_bind (Task.asks_store (store _)) fun answer => ?_
  split
  · exact trivial
  · exact Task.asks_bind (Task.asks_note (note _)) fun _ => trivial

theorem applyDirectly_asks (m : Migration) : Asks allowed (applyDirectly m).run := by
  refine Task.asks_bind (Task.asks_note (note _)) fun _ => ?_
  exact Task.asks_bind (Task.asks_store (store _)) fun _ => Task.asks_ofExcept _ _

theorem applyClaimed_asks (m : Migration) : Asks allowed (applyClaimed m).run := by
  refine Task.asks_bind (Task.asks_store (store _)) fun _ => ?_
  refine Task.asks_bind (Task.asks_ofExcept _ _) fun tx => ?_
  refine Task.asks_bind (Task.asks_store (store _)) fun claimed => ?_
  split
  · exact abort_asks store note tx m _
  · refine Task.asks_bind (Task.asks_store (store _)) fun executed => ?_
    split
    · exact abort_asks store note tx m _
    · exact Task.asks_bind (Task.asks_store (store _)) fun _ => Task.asks_ofExcept _ _

theorem applyEach_asks (ms : List Migration) : Asks allowed (applyEach ms).run := by
  induction ms with
  | nil => exact trivial
  | cons m rest ih =>
      refine Task.asks_bind (Task.asks_note (note _)) fun _ => ?_
      refine Task.asks_bind ?_ fun _ => Task.asks_bind (Task.asks_note (note _)) fun _ => ih
      rw [apply]
      split
      · exact applyDirectly_asks store note m
      · exact applyClaimed_asks store note m

end Asks

/-- A run looks at its directory, and everything else it asks of the store. -/
theorem run_asks {allowed : Host.Call → Prop} (store : ∀ call, allowed (.store call))
    (looks : ∀ request : Host.Call, request.Looks → allowed request) (dir : Path)
    (limit? : Option Ident) : Asks allowed (run dir limit?).run := by
  have hnote : ∀ event, allowed (.note event) := fun event => looks _ trivial
  refine Task.asks_bind (Task.asks_bind (applied_asks store hnote) fun rows => ?_) fun planned => ?_
  · exact Task.asks_bind ((Directory.scan_looks dir).mono looks) fun _ => trivial
  · exact Task.asks_bind (applyEach_asks store hnote planned.2) fun _ => trivial

end Apply

end SchemaLedger
