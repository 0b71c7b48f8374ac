import SchemaLedger.Proofs.Requests
import SchemaLedger.Proofs.Site
import SchemaLedger.Store.Postgres

/-! # Calls as a dialogue with a server

A call to a store on a server is one statement, and what the server answers to it is what the call
comes to. A rollback may follow a statement that was refused; nobody asks how it ended. -/

namespace SchemaLedger

/-! ## The errors of a server -/

/-- What an error of the driver means to a store. Two codes of a server have a meaning of their own;
every other error is kept as it is. -/
inductive Store.DriverError.Means : DriverError → StoreError → Prop
  | missing (message : String) : Means (.server (some "42P01") message) .tableMissing
  | unique (message : String) :
    Means (.server (some "23505") message) (.uniqueViolation message)
  | other {error : DriverError} (h : ∀ message, error ≠ .server (some "42P01") message ∧
      error ≠ .server (some "23505") message) : Means error (.database error)

theorem StoreError.means_classify (error : Store.DriverError) : error.Means (classify error) := by
  fun_cases classify error with
  | case1 message => exact .missing message
  | case2 message => exact .unique message
  | case3 message code hmissing hunique =>
      refine .other fun other => ⟨?_, ?_⟩
      · rintro ⟨⟩
        exact hmissing rfl
      · rintro ⟨⟩
        exact hunique rfl
  | case4 _ hserver => exact .other fun other => ⟨hserver _ _, hserver _ _⟩

namespace Store.Postgres

/-! ## Readings of the ledger -/

/-- The rows that the answer to the ledger query stands for. A table that the server does not know
stands for none. -/
inductive Shows : Except DriverError (List Row) → List LedgerRow → Prop
  | table {rows : List Row} {ledger : List LedgerRow} (read : readRows rows = .ok ledger) :
    Shows (.ok rows) ledger
  | missing (message : String) : Shows (.error (.server (some "42P01") message)) []

theorem error_of_bind {ε α β : Type} {result : Except ε α} {next : α → Except ε β} {error : ε}
    (h : result >>= next = .error error) :
    result = .error error ∨ ∃ value, next value = .error error := by
  cases result with
  | error _ =>
      cases h
      exact .inl rfl
  | ok value => exact .inr ⟨value, h⟩

theorem Column.read_error {α : Type} {name : String} {column : Column α} {error : StoreError}
    (h : column.read name = .error error) : error ≠ .tableMissing := by
  rintro rfl
  cases column <;> cases h

theorem Row.read_error {row : Row} {error : StoreError} (h : row.read = .error error) :
    error ≠ .tableMissing := by
  rcases error_of_bind h with h | ⟨number, h⟩
  · exact Column.read_error h
  rcases error_of_bind h with h | ⟨slug, h⟩
  · exact Column.read_error h
  rcases error_of_bind h with h | ⟨runAt, h⟩
  · exact Column.read_error h
  rintro rfl
  split at h <;> cases h

/-- Rows that cannot be read are no sign that there is no ledger. -/
theorem readRows_error {rows : List Row} {error : StoreError} (h : readRows rows = .error error) :
    error ≠ .tableMissing := by
  induction rows with
  | nil => cases h
  | cons row rest ih =>
      rcases error_of_bind h with h | ⟨first, h⟩
      · exact Row.read_error h
      rcases error_of_bind h with h | ⟨others, h⟩
      · exact ih h
      · cases h

/-! ## Turns -/

abbrev statement : Call → Statement
  | .applied => .rows ledgerQuery
  | .execute sql => .simple sql
  | .begin => .simple "BEGIN"
  | .claim _ id slug => .prepared claimQuery [.integer id.value, .text slug]
  | .executeIn _ sql => .simple sql
  | .commit _ => .simple "COMMIT"
  | .rollback _ => .simple "ROLLBACK"

/-- What the server's answer to its statement makes of a call. -/
def meaning : (call : Call) → (statement call).Answer → call.Answer
  | .applied, .ok rows => readRows rows
  | .applied, .error error => .error (.classify error)
  | .execute _, reply => reply.mapError .classify
  | .begin, reply => (reply.mapError .classify).map fun () => onlyTx
  | .claim .., reply => reply.mapError .classify
  | .executeIn .., reply => reply.mapError .classify
  | .commit _, reply => reply.mapError .classify
  | .rollback _, reply => reply.mapError .classify

def Statement.error? : (statement : Statement) → statement.Answer → Option DriverError
  | .rows _, .error error => some error
  | .prepared .., .error error => some error
  | .simple _, .error error => some error
  | _, _ => none

structure Turn where
  call : Call
  reply : (statement call).Answer

namespace Turn

def exchange (turn : Turn) : Exchange := ⟨.store turn.call, meaning turn.call turn.reply⟩

def error? (turn : Turn) : Option DriverError := (statement turn.call).error? turn.reply

/-- A call that the server refuses fails with the server's error. -/
theorem meaning_of_error? {turn : Turn} {error : DriverError} (h : turn.error? = some error) :
    meaning turn.call turn.reply = turn.call.failed (.classify error) := by
  obtain ⟨call, reply⟩ := turn
  cases call <;> cases reply <;> cases h <;> rfl

/-- Other than a reading of the ledger, a call fails only if the server refuses it. -/
theorem error?_of_meaning {turn : Turn} {error : StoreError} (beside : turn.call ≠ .applied)
    (h : meaning turn.call turn.reply = turn.call.failed error) :
    ∃ cause, turn.error? = some cause ∧ error = .classify cause := by
  obtain ⟨call, reply⟩ := turn
  cases call with
  | applied => exact absurd rfl beside
  | _ =>
      cases reply with
      | ok => cases h
      | error cause =>
          cases h
          exact ⟨cause, rfl, rfl⟩

end Turn

section Serve

variable {σ : Type} (serve : Handler server σ)

theorem run_request (statement : Statement) (s : σ) :
    (Program.request (I := server) statement).run serve s = serve statement s := rfl

theorem run_control (sql : String) (s : σ) : ((control sql).run serve s).1 =
    Except.mapError StoreError.classify (serve (.simple sql) s).1 := by
  rw [control, send, Program.bind_eq, Program.run_bind, run_request]
  rcases serve (.simple sql) s with ⟨reply, after⟩
  cases reply <;> rfl

/-- What a call comes to is what the server answers to its statement. -/
theorem answer_eq_meaning (call : Call) (s : σ) :
    (answer serve call s).1 = meaning call (serve (statement call) s).1 := by
  cases call with
  | applied =>
      rw [answer, word, Program.bind_eq, Program.run_bind, run_request]
      rcases serve (.rows ledgerQuery) s with ⟨reply, after⟩
      cases reply <;> rfl
  | begin =>
      rw [answer, word, Program.bind_eq, Program.run_bind]
      exact congrArg (Except.map fun () => onlyTx) (run_control serve "BEGIN" s)
  | commit => exact run_control serve "COMMIT" s
  | rollback => exact run_control serve "ROLLBACK" s
  | _ => rfl

/-- Calls are made one after the other, each answered by the server as it then is. -/
inductive Taken : σ → List Turn → σ → Prop
  | nil (s : σ) : Taken s [] s
  | cons {s s' : σ} (call : Call) {turns : List Turn}
      (rest : Taken (answer serve call s).2 turns s') :
    Taken s (⟨call, (serve (statement call) s).1⟩ :: turns) s'

end Serve

end Store.Postgres

/-! ## Stores on a server -/

namespace Setting

open Store.Postgres

variable {σ α : Type}

def onServer (setting : Setting σ) (serve : Handler server σ) : Setting σ :=
  { setting with store := answer serve }

/-- What changes no file adds to the record the turns that it takes with the server. -/
theorem taken_of_asks (setting : Setting σ) (serve : Handler server σ) (listing : Listing)
    (site : Site σ) {p : Program host α}
    (asks : p.Asks fun (request : Host.Call) => request.Looks ∨ ∃ call, request = .store call) :
    ∃ turns, Taken serve site.store turns
        (Program.run ((setting.onServer serve).handler listing) p site).2.store ∧
      (Program.run ((setting.onServer serve).handler listing) p site).2.record =
        site.record ++ turns.map Turn.exchange := by
  induction p generalizing site with
  | done value => exact ⟨[], .nil _, by simp⟩
  | ask request next ih =>
      obtain ⟨hrequest, hrest⟩ := asks
      rw [Program.run_ask]
      match request, hrequest with
      | .files (.list _), _ | .files (.read _), _ | .note _, _ => exact ih _ site (hrest _)
      | .store call, _ =>
          obtain ⟨turns, htaken, hrecord⟩ := ih _ ((setting.onServer serve).told call site) (hrest _)
          have hturn : Turn.exchange ⟨call, (serve (statement call) site.store).1⟩ =
              ⟨.store call, (answer serve call site.store).1⟩ := by
            rw [answer_eq_meaning]
            rfl
          refine ⟨_, .cons call htaken, hrecord.trans ?_⟩
          rw [List.map_cons, hturn, Setting.told, List.append_assoc]
          rfl

end Setting

end SchemaLedger
