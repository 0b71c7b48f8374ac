import SchemaLedger.Proofs.Apply.Rerun
import SchemaLedger.Proofs.Directory.Validity
import SchemaLedger.Proofs.Store.Dialogue

/-! # What a refusal of the server comes to

A run on a server ends with the first call that the server refuses. The same two codes mean different
things at different calls: a missing table is no failure of reading the ledger and a failure
everywhere else, and a row that is there already is a lost race only where it refuses a claim. -/

namespace SchemaLedger.Apply

open Store (Call DriverError Tx)
open Store.Postgres (Row Shows Taken Turn meaning readRows)

/-! ## Verdicts -/

/-- A call is the first that the server refuses. It is one for a migration of a plan, and the
migrations before it have been applied. -/
inductive Refused (ms : List Migration) (m : Migration) (turn : Turn) : List Turn → Prop
  | intro {done later : List Migration} {txs : List Tx} {tx : Tx} {before after : List Turn}
      {begun rest : List Exchange} {answer : turn.call.Answer} (split : ms = done ++ m :: later)
      (opened : txs.length = done.length) (passed : ∀ earlier ∈ before, earlier.error? = none)
      (course : before.map Turn.exchange = scripts done txs ++ begun)
      (follows : script m tx = begun ++ ⟨.store turn.call, answer⟩ :: rest)
      (closes : after.map (·.call) = closing turn.call) : Refused ms m turn (before ++ turn :: after)

/-- How a run ends, given what is found in its directory, the server's answer to the ledger query and
the turns that follow. -/
inductive Verdict (seen : Except Failure (List Migration)) (limit? : Option Ident) :
    Except DriverError (List Row) → List Turn → Except Failure Outcome → Prop
  | unread {error : DriverError} {cause : StoreError} (means : error.Means cause)
      (known : ∀ message, error ≠ .server (some "42P01") message) :
    Verdict seen limit? (.error error) [] (.error (.ledgerUnavailable cause))
  | garbled {rows : List Row} {cause : StoreError} (unreadable : readRows rows = .error cause) :
    Verdict seen limit? (.ok rows) [] (.error (.ledgerUnavailable cause))
  | unscanned {first : Except DriverError (List Row)} {rows : List LedgerRow} {failure : Failure}
      (shows : Shows first rows) (unseen : seen = .error failure) :
    Verdict seen limit? first [] (.error failure)
  | whole {first : Except DriverError (List Row)} {rows : List LedgerRow} {found : List Migration}
      {turns : List Turn} {txs : List Tx} (shows : Shows first rows) (scanned : seen = .ok found)
      (opened : txs.length = (needed rows limit? found).length)
      (passed : ∀ turn ∈ turns, turn.error? = none)
      (course : turns.map Turn.exchange = scripts (needed rows limit? found) txs) :
    Verdict seen limit? first turns (.ok ⟨(needed rows limit? found).map (·.id), rows.length⟩)
  | conflict {first : Except DriverError (List Row)} {rows : List LedgerRow}
      {found : List Migration} {turns : List Turn} {m : Migration} {tx : Tx} {message : String}
      (shows : Shows first rows) (scanned : seen = .ok found)
      (refused : Refused (needed rows limit? found) m
        ⟨.claim tx m.id m.slug, .error (.server (some "23505") message)⟩ turns) :
    Verdict seen limit? first turns (.error (.claimConflict m.id m.name (.uniqueViolation message)))
  | failed {first : Except DriverError (List Row)} {rows : List LedgerRow}
      {found : List Migration} {turns : List Turn} {m : Migration} {turn : Turn}
      {error : DriverError} {cause : StoreError} (shows : Shows first rows)
      (scanned : seen = .ok found) (refused : Refused (needed rows limit? found) m turn turns)
      (refuses : turn.error? = some error) (means : error.Means cause)
      (other : ∀ tx id slug message,
        turn ≠ ⟨.claim tx id slug, .error (.server (some "23505") message)⟩) :
    Verdict seen limit? first turns (.error (.applyFailure m.name cause))

section Verdict

variable {seen : Except Failure (List Migration)} {limit? : Option Ident}
variable {first : Except DriverError (List Row)} {turns : List Turn} {m : Migration}

theorem shows_of_rowsOf {rows : List LedgerRow} (h : rowsOf (meaning .applied first) = .ok rows) :
    Shows first rows := by
  rcases rowsOf_eq_ok.mp h with hrows | ⟨hmissing, rfl⟩
  · cases first with
    | ok answered => exact .table hrows
    | error error => cases hrows
  · cases first with
    | ok answered => exact absurd rfl (Store.Postgres.readRows_error hmissing)
    | error error =>
        have hmeans := StoreError.means_classify error
        rw [Except.error.inj hmissing] at hmeans
        cases hmeans with
        | missing message => exact .missing message

theorem verdict_unread {failure : Failure}
    (h : rowsOf (meaning .applied first) = .error failure) :
    Verdict seen limit? first [] (.error failure) := by
  obtain ⟨cause, hknown, hread, rfl⟩ := rowsOf_eq_error.mp h
  cases first with
  | ok answered => exact .garbled hread
  | error error =>
      have hmeans := StoreError.means_classify error
      rw [Except.error.inj hread] at hmeans
      refine .unread hmeans ?_
      intro message hserver
      cases hmeans with
      | missing => exact hknown rfl
      | unique => simp at hserver
      | other hother => exact (hother message).1 hserver

/-! ## The first refusal -/

theorem error?_of_mem_script {tx : Tx} {turn : Turn} (h : turn.exchange ∈ script m tx) :
    turn.error? = none := by
  cases herror : turn.error? with
  | none => rfl
  | some error =>
      have hfails : turn.exchange.Fails := by
        rw [Turn.exchange, Turn.meaning_of_error? herror]
        exact .intro _ _ fun hread => absurd hread (unread_of_script h)
      exact absurd hfails (script_passes _ h)

theorem error?_of_mem_scripts {ms : List Migration} {txs : List Tx} {turn : Turn}
    (h : turn.exchange ∈ scripts ms txs) : turn.error? = none := by
  obtain ⟨_, _, hscript⟩ := mem_scripts h
  exact error?_of_mem_script hscript

theorem claim_of_script {tx tx' : Tx} {id : Ident} {slug : String}
    {answer : Call.Answer (.claim tx' id slug)}
    (h : ⟨.store (.claim tx' id slug), answer⟩ ∈ script m tx) : id = m.id ∧ slug = m.slug := by
  rw [script] at h
  split at h
  · simp at h
  · obtain ⟨⟨_, hsame⟩, _⟩ :
        (tx' = tx ∧ id = m.id ∧ slug = m.slug) ∧ answer = .ok () := by simpa using h
    exact hsame

theorem passed_of_follows {done : List Migration} {txs : List Tx} {tx : Tx}
    {begun rest : List Exchange} (course : turns.map Turn.exchange = scripts done txs ++ begun)
    (follows : script m tx = begun ++ rest) : ∀ turn ∈ turns, turn.error? = none := by
  intro turn hturn
  have hmem : turn.exchange ∈ scripts done txs ++ begun := by
    rw [← course]
    exact List.mem_map_of_mem hturn
  rcases List.mem_append.mp hmem with hdone | hbegun
  · exact error?_of_mem_scripts hdone
  · have hscript : turn.exchange ∈ script m tx := by
      rw [follows]
      exact List.mem_append_left _ hbegun
    exact error?_of_mem_script hscript

theorem refused_of_followedEach {ms : List Migration} {failure : Failure}
    (h : FollowedEach ms (.error failure) (turns.map Turn.exchange)) :
    ∃ m turn error, Refused ms m turn turns ∧ turn.error? = some error ∧
      failure = blame m turn.call (.classify error) := by
  generalize hnew : turns.map Turn.exchange = new at h
  cases h with
  | cut done txs split opened followed =>
      cases followed with
      | cut error follows closes =>
          rw [← List.append_assoc] at hnew
          obtain ⟨before, others, rfl, hbefore, hothers⟩ := List.map_eq_append_iff.mp hnew
          obtain ⟨turn, after, rfl, hturn, rfl⟩ := List.map_eq_cons_iff.mp hothers
          obtain ⟨hcall, hmeaning⟩ := Exchange.mk.inj hturn
          obtain rfl := Host.Call.store.inj hcall
          have hunread := unread_of_script (mem_of_follows follows)
          obtain ⟨cause, herror, rfl⟩ := Turn.error?_of_meaning hunread (eq_of_heq hmeaning)
          have hpassed := passed_of_follows hbefore follows
          have hcloses : after.map (·.call) = closing turn.call := by
            refine List.map_injective_iff.mpr (fun _ _ => Host.Call.store.inj) ?_
            rw [List.map_map] at closes ⊢
            exact closes
          exact ⟨_, turn, cause, .intro split opened hpassed hbefore follows hcloses, herror, rfl⟩

theorem Refused.mem_script {ms : List Migration} {turn : Turn} (h : Refused ms m turn turns) :
    ∃ tx, ∃ answer : turn.call.Answer, ⟨.store turn.call, answer⟩ ∈ script m tx := by
  cases h with
  | intro _ _ _ _ follows _ => exact ⟨_, _, mem_of_follows follows⟩

theorem Refused.find?_eq {ms : List Migration} {turn : Turn} (h : Refused ms m turn turns)
    (refuses : turn.error?.isSome = true) : turns.find? (·.error?.isSome) = some turn := by
  cases h with
  | intro _ _ passed _ _ _ =>
      refine List.find?_eq_some_iff_append.mpr ⟨refuses, _, _, rfl, ?_⟩
      intro earlier hearlier
      rw [passed earlier hearlier]
      rfl

/-- What a refusal is blamed on depends on the call and on what the server's error means. -/
theorem verdict_refused {rows : List LedgerRow} {found : List Migration} {turn : Turn}
    {error : DriverError} (shows : Shows first rows) (scanned : seen = .ok found)
    (refused : Refused (needed rows limit? found) m turn turns) (refuses : turn.error? = some error) :
    Verdict seen limit? first turns (.error (blame m turn.call (.classify error))) := by
  have hmeans := StoreError.means_classify error
  obtain ⟨call, reply⟩ := turn
  cases call with
  | claim tx id slug =>
      obtain ⟨_, _, hmem⟩ := refused.mem_script
      obtain ⟨rfl, rfl⟩ := claim_of_script hmem
      cases reply with
      | ok => cases refuses
      | error error =>
          cases refuses
          rw [blame]
          generalize StoreError.classify error = cause at hmeans ⊢
          cases hmeans with
          | unique message => exact .conflict shows scanned refused
          | missing message =>
              refine .failed shows scanned refused rfl (.missing message) ?_
              simp
          | other hother =>
              refine .failed shows scanned refused rfl (.other hother) ?_
              rintro _ _ _ message ⟨⟩
              exact (hother message).2 rfl
  | _ => exact .failed shows scanned refused refuses hmeans nofun

/-- The ledger is reported as unavailable exactly if the server's answer stands for no rows. -/
theorem Verdict.unavailable_iff {result : Except Failure Outcome}
    (h : Verdict seen limit? first turns result)
    (scans : ∀ failure, seen = .error failure → Directory.OfScan failure) :
    (∃ cause, result = .error (.ledgerUnavailable cause)) ↔ ∀ rows, ¬ Shows first rows := by
  cases h with
  | unread means known =>
      refine ⟨fun _ rows shows => ?_, fun _ => ⟨_, rfl⟩⟩
      cases shows with
      | missing message => exact known message rfl
  | garbled unreadable =>
      refine ⟨fun _ rows shows => ?_, fun _ => ⟨_, rfl⟩⟩
      cases shows with
      | table read => cases unreadable.symm.trans read
  | unscanned shows unseen =>
      refine ⟨?_, fun hnone => absurd shows (hnone _)⟩
      rintro ⟨cause, ⟨⟩⟩
      exact (scans _ unseen).elim
  | whole shows | conflict shows | failed shows =>
      exact ⟨nofun, fun hnone => absurd shows (hnone _)⟩

/-- A conflict is reported exactly if the first call that the server refuses is a claim, and it
refuses it since the row is there already. -/
theorem Verdict.conflict_iff {result : Except Failure Outcome}
    (h : Verdict seen limit? first turns result)
    (scans : ∀ failure, seen = .error failure → Directory.OfScan failure) :
    (∃ id name cause, result = .error (.claimConflict id name cause)) ↔
      ∃ tx id slug message, turns.find? (·.error?.isSome) =
        some ⟨.claim tx id slug, .error (.server (some "23505") message)⟩ := by
  cases h with
  | unread | garbled => exact ⟨nofun, nofun⟩
  | unscanned shows unseen =>
      refine ⟨?_, nofun⟩
      rintro ⟨id, name, cause, ⟨⟩⟩
      exact (scans _ unseen).elim
  | whole shows scanned opened passed course =>
      have hnone : turns.find? (·.error?.isSome) = none := by
        refine List.find?_eq_none.mpr fun turn hturn => ?_
        rw [passed turn hturn]
        exact Bool.false_ne_true
      rw [hnone]
      exact ⟨nofun, nofun⟩
  | conflict shows scanned refused =>
      exact ⟨fun _ => ⟨_, _, _, _, refused.find?_eq rfl⟩, fun _ => ⟨_, _, _, rfl⟩⟩
  | failed shows scanned refused refuses means other =>
      rw [refused.find?_eq (by rw [refuses]; rfl)]
      refine ⟨nofun, ?_⟩
      rintro ⟨tx, id, slug, message, hturn⟩
      exact absurd (Option.some.inj hturn) (other tx id slug message)

end Verdict

/-! ## Runs -/

section Run

variable {σ : Type}

theorem exists_first {taken : List Turn} {answer : Except StoreError (List LedgerRow)}
    {rest : List Exchange} (h : taken.map Turn.exchange = ⟨.store .applied, answer⟩ :: rest) :
    ∃ first turns, taken = ⟨.applied, first⟩ :: turns ∧ meaning .applied first = answer ∧
      turns.map Turn.exchange = rest := by
  obtain ⟨⟨call, reply⟩, turns, rfl, hturn, hrest⟩ := List.map_eq_cons_iff.mp h
  obtain ⟨hcall, hmeaning⟩ := Exchange.mk.inj hturn
  obtain rfl : call = .applied := Host.Call.store.inj hcall
  exact ⟨reply, turns, rfl, eq_of_heq hmeaning, hrest⟩

variable {setting : Setting σ} {serve : Handler Store.Postgres.server σ} {listing : Listing}
variable {site : Site σ} {dir : Path} {limit? : Option Ident}

theorem Course.verdict {result : Except Failure Outcome} {taken : List Turn} {s : σ}
    (h : Course (setting.onServer serve) listing site dir limit? result (taken.map Turn.exchange))
    (takes : Taken serve site.store taken s) :
    ∃ first turns, taken = ⟨.applied, first⟩ :: turns ∧
      Verdict (Directory.seen (listing.sight site.tree) dir) limit? first turns result := by
  generalize hnew : taken.map Turn.exchange = new at h
  cases h with
  | unread read =>
      obtain ⟨first, turns, rfl, rfl, hturns⟩ := exists_first hnew
      obtain rfl := List.map_eq_nil_iff.mp hturns
      exact ⟨first, [], rfl, verdict_unread read⟩
  | unscanned read unseen =>
      obtain ⟨first, turns, rfl, rfl, hturns⟩ := exists_first hnew
      obtain rfl := List.map_eq_nil_iff.mp hturns
      exact ⟨first, [], rfl, .unscanned (shows_of_rowsOf read) unseen⟩
  | @planned _ rows found ms result _ read scanned pending ascending followed =>
      obtain ⟨first, turns, rfl, rfl, rfl⟩ := exists_first hnew
      refine ⟨first, turns, rfl, ?_⟩
      have hfirst : ((setting.onServer serve).store .applied site.store).1 =
          meaning .applied first := by
        cases takes
        exact Store.Postgres.answer_eq_meaning serve .applied site.store
      rw [run_pending, hfirst, read, scanned] at pending
      cases pending
      cases result with
      | error failure =>
          obtain ⟨m, turn, error, hrefused, herror, rfl⟩ := refused_of_followedEach followed
          exact verdict_refused (shows_of_rowsOf read) scanned hrefused herror
      | ok =>
          generalize hcourse : turns.map Turn.exchange = course at followed
          cases followed with
          | whole txs opened =>
              refine .whole (shows_of_rowsOf read) scanned opened (fun turn hturn => ?_) hcourse
              have hmem : turn.exchange ∈ scripts (needed rows limit? found) txs := by
                rw [← hcourse]
                exact List.mem_map_of_mem hturn
              exact error?_of_mem_scripts hmem

/-- However a server answers, a run takes its turns with it and comes to the verdict that they call
for. The ledger is unavailable exactly if the answer to the ledger query stands for no rows; there is
a conflict exactly if the first call refused after it is a claim whose row is there already. -/
theorem run_attributed (setting : Setting σ) (serve : Handler Store.Postgres.server σ)
    (listing : Listing) (site : Site σ) (dir : Path) (limit? : Option Ident) :
    ∃ result after first turns,
      Program.run ((setting.onServer serve).handler listing) (run dir limit?).run site =
        (result, after) ∧
      site.Grows after (Turn.exchange ⟨.applied, first⟩ :: turns.map Turn.exchange) ∧
      Taken serve site.store (⟨.applied, first⟩ :: turns) after.store ∧
      Verdict (Directory.seen (listing.sight site.tree) dir) limit? first turns result ∧
      ((∃ cause, result = .error (.ledgerUnavailable cause)) ↔ ∀ rows, ¬ Shows first rows) ∧
      ((∃ id name cause, result = .error (.claimConflict id name cause)) ↔
        ∃ tx id slug message, turns.find? (·.error?.isSome) =
          some ⟨.claim tx id slug, .error (.server (some "23505") message)⟩) := by
  obtain ⟨result, after, new, hrun, hgrows, hcourse, _⟩ :=
    run_course (setting.onServer serve) listing site dir limit?
  have hasks : (run dir limit?).run.Asks
      fun (request : Host.Call) => request.Looks ∨ ∃ call, request = .store call :=
    run_asks (fun call => .inr ⟨call, rfl⟩) (fun _ => .inl) dir limit?
  obtain ⟨taken, htaken, hrecord⟩ := Setting.taken_of_asks setting serve listing site hasks
  rw [hrun] at htaken hrecord
  have hnew : taken.map Turn.exchange = new := by
    have hsame : site.record ++ taken.map Turn.exchange = site.record ++ new := by
      rw [← hgrows.record, ← hrecord]
    exact List.append_cancel_left hsame
  rw [← hnew] at hgrows hcourse
  obtain ⟨first, turns, rfl, hverdict⟩ := hcourse.verdict htaken
  exact ⟨result, after, first, turns, hrun, hgrows, htaken, hverdict,
    hverdict.unavailable_iff fun _ => Directory.ofScan_of_seen,
    hverdict.conflict_iff fun _ => Directory.ofScan_of_seen⟩

end Run

/-! ## A claim that comes too late -/

/-- A server that has no ledger and refuses every claim as one that is there already. -/
def contested : Handler Store.Postgres.server Store.Memory
  | .rows _, s => (.error (.server (some "42P01") "no such relation"), s)
  | .prepared .., s => (.error (.server (some "23505") "duplicate key"), s)
  | .simple _, s => (.ok (), s)

/-- Without a ledger the run goes on. The log is run by itself, and then a claim is refused. -/
example : ∃ after, Program.run ((Setting.inMemory.onServer contested).handler .plain)
    (run (.ofText "m") none).run unlogged =
      (.error (.claimConflict second.id second.name (.uniqueViolation "duplicate key")), after) := by
  have hneeded : needed [] none [logging, second] = [logging, second] :=
    sortById_of_ascending (by decide)
  have heach : ∃ after, Program.run ((Setting.inMemory.onServer contested).handler .plain)
      (applyEach [logging, second]).run
      ((Setting.inMemory.onServer contested).told .applied unlogged) =
        (.error (.claimConflict second.id second.name (.uniqueViolation "duplicate key")), after) :=
    ⟨_, rfl⟩
  obtain ⟨after, heach⟩ := heach
  rw [← hneeded] at heach
  have hread : rowsOf ((Setting.inMemory.onServer contested).store .applied unlogged.store).1 =
      .ok [] := rfl
  have hseen : Directory.seen (Listing.plain.sight unlogged.tree) (.ofText "m") =
      .ok [logging, second] := logbook_seen
  exact ⟨after, run_planned hread hseen heach⟩

end SchemaLedger.Apply
