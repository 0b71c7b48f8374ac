import SchemaLedger.Event
import SchemaLedger.Failure
import SchemaLedger.Files.Call
import SchemaLedger.Store.Call

/-! # The surroundings of an activity

Everything an activity asks for: files, the store, the time, and somebody who takes notes. -/

namespace SchemaLedger

namespace Host

inductive Call where
  | files (call : Files.Call)
  | store (call : Store.Call)
  /-- The time in seconds since the beginning of 1970. -/
  | now
  | note (event : Event)
  | print (line : String)
  /-- Opens the store at a URL, for the calls that follow. -/
  | connect (url : String)
  | disconnect
  deriving DecidableEq, Repr

abbrev Call.Answer : Call → Type
  | .files call => call.Answer
  | .store call => call.Answer
  | .now => Int
  | .connect _ => Except StoreError Unit
  | .note _ | .print _ | .disconnect => Unit

end Host

abbrev host : Interface := ⟨Host.Call, Host.Call.Answer⟩

abbrev Task (ε α : Type) := ExceptT ε (Program host) α

namespace Task

variable {ε α : Type}

def fail (error : ε) : Task ε α := throw error

def ofExcept {δ : Type} (wrap : δ → ε) : Except δ α → Task ε α
  | .ok value => pure value
  | .error error => fail (wrap error)

def files (call : Files.Call) : Task ε call.Answer :=
  ExceptT.lift (Program.request (I := host) (.files call))

def store (call : Store.Call) : Task ε call.Answer :=
  ExceptT.lift (Program.request (I := host) (.store call))

def readText (path : Path) : Task Files.IoError String := do
  let bytes ← ofExcept id (← files (.read path))
  ofExcept id (Files.decode bytes)

def note (event : Event) : Task ε Unit :=
  ExceptT.lift (Program.request (I := host) (.note event))

/-! ## Laws -/

section Laws

variable {β δ σ : Type} (handle : Handler host σ) (s : σ)

@[simp] theorem run_pure (value : α) :
    Program.run handle (pure value : Task ε α).run s = (.ok value, s) := rfl

@[simp] theorem run_fail (error : ε) :
    Program.run handle (fail error : Task ε α).run s = (.error error, s) := rfl

/-- A sequence goes on where its first part stopped, unless that failed. -/
theorem run_bind (task : Task ε α) (next : α → Task ε β) :
    Program.run handle (task >>= next).run s =
      match Program.run handle task.run s with
      | (.ok value, after) => Program.run handle (next value).run after
      | (.error error, after) => (.error error, after) := by
  rw [ExceptT.run_bind, Program.bind_eq, Program.run_bind]
  rcases Program.run handle task.run s with ⟨result | result, after⟩ <;> rfl

@[simp] theorem run_ofExcept (wrap : δ → ε) (result : Except δ α) :
    Program.run handle (ofExcept wrap result : Task ε α).run s = (result.mapError wrap, s) := by
  cases result <;> rfl

@[simp] theorem run_files (call : Files.Call) :
    Program.run handle (files call : Task ε call.Answer).run s =
      (.ok (handle (.files call) s).1, (handle (.files call) s).2) := rfl

@[simp] theorem run_store (call : Store.Call) :
    Program.run handle (store call : Task ε call.Answer).run s =
      (.ok (handle (.store call) s).1, (handle (.store call) s).2) := rfl

@[simp] theorem run_note (event : Event) :
    Program.run handle (note event : Task ε Unit).run s =
      (.ok (), (handle (.note event) s).2) := rfl

end Laws

end Task

end SchemaLedger
