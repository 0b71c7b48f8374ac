import SchemaLedger.Proofs.Apply.Rerun
import SchemaLedger.Proofs.Store.Rows

/-! # Malformed ledgers

A ledger with one row that cannot be read is not read at all. What reads it then knows of no
migration whether it has been applied, so nothing is. -/

namespace SchemaLedger

namespace Store.Postgres

variable {σ : Type} {serve : Handler server σ} {s after : σ} {rows : List Row}

theorem answer_applied (answered : serve (.rows ledgerQuery) s = (.ok rows, after)) :
    answer serve .applied s = (readRows rows, after) := by
  rw [answer, word, Program.bind_eq, Program.run_bind, run_request, answered]
  rfl

end Store.Postgres

namespace Apply

open Store.Postgres (Row FirstFlaw answer answer_applied ledgerQuery)

section Malformed

variable {σ : Type} {setting : Setting σ} {site : Site σ} {error : StoreError}

/-- What needs the ledger goes no further if it cannot be read. -/
theorem run_unavailable (listing : Listing)
    (unread : (setting.store .applied site.store).1 = .error error) (known : error ≠ .tableMissing)
    (dir : Path) (limit? : Option Ident) :
    Program.run (setting.handler listing) applied.run site =
        (.error (.ledgerUnavailable error), setting.told .applied site) ∧
      Program.run (setting.handler listing) (run dir limit?).run site =
        (.error (.ledgerUnavailable error), setting.told .applied site) := by
  have hrows : rowsOf (setting.store .applied site.store).1 = .error (.ledgerUnavailable error) :=
    rowsOf_eq_error.mpr ⟨error, known, unread, rfl⟩
  constructor
  · rw [run_applied, hrows]
  · rw [run, Task.run_bind, run_plan, hrows]
    rfl

/-- The rows that the server returns are read all, each as one record in its place, or not at all.
The first row that is not legible decides on the error, by what is wrong with it first. Then neither
a reading of the ledger nor a run has a ledger to go by, and the ledger query is all that has been
asked of the server. -/
theorem ledger_all_or_nothing {serve : Handler Store.Postgres.server σ} {rows : List Row} {after : σ}
    (setting : Setting σ) (listing : Listing) (dir : Path) (limit? : Option Ident)
    (answered : serve (.rows ledgerQuery) site.store = (.ok rows, after))
    (fits : ∀ row ∈ rows, row.Fits) :
    (∀ ledger, (answer serve .applied site.store).1 = .ok ledger ↔
      List.Forall₂ Row.Holds rows ledger) ∧
    ((∃ ledger, (answer serve .applied site.store).1 = .ok ledger) ↔ ∀ row ∈ rows, row.Legible) ∧
    (∀ error, (answer serve .applied site.store).1 = .error error ↔ FirstFlaw rows error) ∧
    ((∃ row ∈ rows, ¬ row.Legible) → ∃ error stopped,
      FirstFlaw rows error ∧
      site.Grows stopped [⟨.store .applied, .error error⟩] ∧ stopped.store = after ∧
      Program.run ((setting.onServer serve).handler listing) applied.run site =
        (.error (.ledgerUnavailable error), stopped) ∧
      Program.run ((setting.onServer serve).handler listing) (run dir limit?).run site =
        (.error (.ledgerUnavailable error), stopped)) := by
  have hanswer : answer serve .applied site.store = (Store.Postgres.readRows rows, after) :=
    answer_applied answered
  rw [hanswer]
  refine ⟨fun _ => Store.Postgres.readRows_eq_ok_iff fits, Store.Postgres.exists_readRows_iff,
    fun _ => Store.Postgres.readRows_eq_error_iff, ?_⟩
  rintro ⟨row, hrow, illegible⟩
  obtain legible | ⟨error, hflaw⟩ := Store.Postgres.legible_or_firstFlaw rows
  · exact absurd (legible row hrow) illegible
  · have hread : Store.Postgres.readRows rows = .error error := hflaw.readRows
    have hstore : (setting.onServer serve).store .applied site.store = (.error error, after) :=
      hanswer.trans (congrArg (·, after) hread)
    have hgrows : site.Grows ((setting.onServer serve).told .applied site)
        [⟨.store .applied, ((setting.onServer serve).store .applied site.store).1⟩] :=
      Setting.grows_told .applied
    rw [hstore] at hgrows
    obtain ⟨happlied, hrun⟩ := run_unavailable listing (congrArg Prod.fst hstore)
      (Store.Postgres.readRows_error hread) dir limit?
    exact ⟨error, _, hflaw, hgrows, congrArg Prod.snd hstore, happlied, hrun⟩

end Malformed

/-! ## A row with a negative ID -/

def marredRows : List Row :=
  [⟨.value 0, .value "init", .value 0⟩, ⟨.value (-1), .value "undo", .value 0⟩, ⟨.null, .absent, .null⟩]

def marred : Handler Store.Postgres.server Store.Memory
  | .rows _, s => (.ok marredRows, s)
  | .prepared .., s => (.ok (), s)
  | .simple _, s => (.ok (), s)

theorem marredRows_fit : ∀ row ∈ marredRows, row.Fits := by
  intro row hrow number hnumber
  simp only [marredRows, List.mem_cons, List.not_mem_nil, or_false] at hrow
  rcases hrow with rfl | rfl | rfl <;> cases hnumber <;> decide

theorem message_marred : "malformed ledger row: " ++ (IdentError.negative (-1)).message =
    "malformed ledger row: migration ID must not be negative: -1" := by
  have hdigits : Decimal.digits 1 = ['1'] := by
    rw [Decimal.digits]
    rfl
  have hmessage : (IdentError.negative (-1)).message =
      "migration ID must not be negative: " ++ ("-" ++ String.ofList (Decimal.digits 1)) := rfl
  rw [hmessage, hdigits]
  decide

/-- The second row decides, though the third is worse. -/
theorem ledger_all_or_nothing_negative : ∃ stopped,
    unlogged.Grows stopped [⟨.store .applied, .error
      (.backend "malformed ledger row: migration ID must not be negative: -1")⟩] ∧
    Program.run ((Setting.inMemory.onServer marred).handler .plain) (run (.ofText "m") none).run
        unlogged =
      (.error (.ledgerUnavailable
        (.backend "malformed ledger row: migration ID must not be negative: -1")), stopped) := by
  have hanswered : marred (.rows ledgerQuery) unlogged.store = (.ok marredRows, unlogged.store) := rfl
  have hillegible : ∃ row ∈ marredRows, ¬ row.Legible := by
    refine ⟨⟨.value (-1), .value "undo", .value 0⟩, by simp [marredRows], ?_⟩
    rintro ⟨⟨number, ⟨⟩, hpositive⟩, _, _⟩
    exact absurd hpositive (by decide)
  obtain ⟨_, _, herror, hstops⟩ := ledger_all_or_nothing Setting.inMemory .plain (.ofText "m") none
    hanswered marredRows_fit
  obtain ⟨error, stopped, hflaw, hgrows, _, _, hrun⟩ := hstops hillegible
  have hread : (answer marred .applied unlogged.store).1 =
      .error (.backend ("malformed ledger row: " ++ (IdentError.negative (-1)).message)) := rfl
  rw [message_marred] at hread
  obtain rfl := Except.error.inj (((herror error).mpr hflaw).symm.trans hread)
  exact ⟨stopped, hgrows, hrun⟩

end Apply

end SchemaLedger
