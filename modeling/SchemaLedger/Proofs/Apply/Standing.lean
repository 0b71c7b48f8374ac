import SchemaLedger.Proofs.Apply.Plan
import SchemaLedger.Proofs.Apply.Sight
import SchemaLedger.Proofs.Store.Contract

/-! # How a run stands towards its store

A run works on one transaction at a time, and what it may do next depends on what has been done in
it. The rule below lists these calls; every activity that applies migrations keeps to it. -/

namespace SchemaLedger.Apply

open Store (Call Claim Tx Work)

/-- Whether a migration runs in a transaction that claims its ID. -/
def Transactional (m : Migration) : Prop := Directive.skipsTransaction m.content = false

instance (m : Migration) : Decidable (Transactional m) :=
  inferInstanceAs (Decidable (Directive.skipsTransaction m.content = false))

def claimOf (m : Migration) : Claim := ⟨m.id, m.slug⟩

/-- What the transaction of a migration does when it commits. -/
def unitOf (m : Migration) : Work := ⟨[claimOf m], [m.content]⟩

/-- What the statements of a migration make of the rows. -/
def effectOf (effect : Store.Effect) (m : Migration) : List Claim → List Claim → Prop :=
  if Transactional m then effect.inside m.content else effect.alone m.content

theorem effectOf_leaves {effect : Store.Effect} {m : Migration}
    (alone : Store.Effect.Leaves (effect.alone m.content))
    (inside : Store.Effect.Leaves (effect.inside m.content)) :
    Store.Effect.Leaves (effectOf effect m) := by
  rw [effectOf]
  split
  · exact inside
  · exact alone

/-- What lasts once a migration has been applied. -/
def lastingOf (m : Migration) : Work := if Transactional m then unitOf m else .direct m.content

structure Standing where
  work? : Option (Tx × Work)
  /-- IDs that the run knows to be in the ledger. -/
  known : List Ident
  /-- A claim that was refused. -/
  refusal? : Option (Claim × StoreError)

namespace Standing

def fresh : Standing := ⟨none, [], none⟩

def held (st : Standing) : List Tx := (st.work?.map (·.1)).toList

def alter (st : Standing) (change : Work → Work) : Standing :=
  { st with work? := st.work?.map fun (tx, work) => (tx, change work) }

def claimed (st : Standing) : List Ident :=
  match st.work? with
  | some (_, work) => work.claims.map (·.id)
  | none => []

def closed (st : Standing) : Standing := { st with work? := none }

def after (st : Standing) : (call : Call) → call.Answer → Standing
  | .applied, .ok rows => { st with known := rows.map (·.id) }
  | .begin, .ok tx => { st with work? := some (tx, .empty) }
  | .claim _ id slug, .ok () => st.alter (·.claim ⟨id, slug⟩)
  | .claim _ id slug, .error error => { st with refusal? := some (⟨id, slug⟩, error) }
  | .executeIn _ sql, .ok () => st.alter (·.perform sql)
  | .commit _, .ok () => { st.closed with known := st.known ++ st.claimed }
  | .commit _, .error _ | .rollback _, _ => st.closed
  | _, _ => st

end Standing

section Rule

-- The migrations in play, and when one of them may be claimed.
variable (plays : Migration → Prop) (due : List Ident → Migration → Prop)

/-- The calls that a run may make. After a refused claim it can only give up. -/
inductive Rule : Standing → Call → Prop
  | read {known} : Rule ⟨none, known, none⟩ .applied
  | direct {known m} (play : plays m) (alone : ¬ Transactional m) :
    Rule ⟨none, known, none⟩ (.execute m.content)
  | begin {known} : Rule ⟨none, known, none⟩ .begin
  | claim {known tx m} (play : plays m) (inside : Transactional m) (turn : due known m) :
    Rule ⟨some (tx, .empty), known, none⟩ (.claim tx m.id m.slug)
  | perform {known tx m} (play : plays m) (inside : Transactional m) (turn : due known m) :
    Rule ⟨some (tx, ⟨[claimOf m], []⟩), known, none⟩ (.executeIn tx m.content)
  | commit {known tx m} (play : plays m) (inside : Transactional m) (turn : due known m) :
    Rule ⟨some (tx, unitOf m), known, none⟩ (.commit tx)
  | rollback {known tx work refusal?} : Rule ⟨some (tx, work), known, refusal?⟩ (.rollback tx)

def around : Surroundings Store.calls Standing where
  allows := Rule plays due
  answers st call answer after := after = st.after call answer

/-- How a run may end: without a transaction and, after a refused claim, with the failure that this
means for one of the migrations. -/
structure Ended {α : Type} (result : Except Failure α) (st : Standing) : Prop where
  closed : st.work? = none
  refused : ∀ claim error, st.refusal? = some (claim, error) →
    ∃ m, plays m ∧ claimOf m = claim ∧ result = .error (claimFailure m error)

/-- How a part of a run leaves it: ready to go on, or at its end. -/
def Goes {α : Type} (known : List Ident) : Except Failure α → Standing → Prop
  | .ok _, st => st = ⟨none, known, none⟩
  | .error failure, st => Ended plays (.error failure : Except Failure α) st

def knownAfter (known : List Ident) (m : Migration) : List Ident :=
  if Transactional m then known ++ [m.id] else known

/-- Each migration is due once those before it are known. -/
def InTurn : List Ident → List Migration → Prop
  | _, [] => True
  | known, m :: rest => (Transactional m → due known m) ∧ InTurn (knownAfter known m) rest

end Rule

variable {plays : Migration → Prop} {due : List Ident → Migration → Prop} {sight : Files.Sight}

theorem ended_error {α : Type} (failure : Failure) (known : List Ident) :
    Ended plays (.error failure : Except Failure α) ⟨none, known, none⟩ :=
  ⟨rfl, nofun⟩

theorem Ended.of_error {α β : Type} {failure : Failure} {st : Standing}
    (h : Ended plays (.error failure : Except Failure α) st) :
    Ended plays (.error failure : Except Failure β) st := by
  refine ⟨h.closed, ?_⟩
  intro claim error hrefusal
  obtain ⟨m, play, hclaim, hresult⟩ := h.refused claim error hrefusal
  cases hresult
  exact ⟨m, play, hclaim, rfl⟩

/-! ## One migration -/

theorem meets_abort {tx : Tx} {m : Migration} {failure : Failure} {work : Work}
    {known : List Ident} {refusal? : Option (Claim × StoreError)}
    {ends : Except Failure Unit → Standing → Prop}
    (h : ends (.error failure) ⟨none, known, refusal?⟩) :
    Program.Meets ((around plays due).host sight) (abort tx m failure).run ends
      ⟨some (tx, work), known, refusal?⟩ := by
  rw [abort, Task.meets_bind, Task.meets_store]
  refine ⟨.rollback, ?_⟩
  intro answer st hst
  cases hst
  cases answer with
  | ok => exact h
  | error error =>
      rw [Task.Then, Task.meets_bind, Task.meets_note]
      refine ⟨trivial, ?_⟩
      rintro _ _ ⟨_, rfl⟩
      exact h

theorem meets_applyDirectly {m : Migration} (play : plays m) (alone : ¬ Transactional m)
    (known : List Ident) :
    Program.Meets ((around plays due).host sight) (applyDirectly m).run (Goes plays known)
      ⟨none, known, none⟩ := by
  rw [applyDirectly, Task.meets_bind, Task.meets_note]
  refine ⟨trivial, ?_⟩
  rintro _ _ ⟨_, rfl⟩
  rw [Task.Then, Task.meets_bind, Task.meets_store]
  refine ⟨.direct play alone, ?_⟩
  intro answer st hst
  cases hst
  rw [Task.Then, Task.meets_ofExcept]
  cases answer with
  | ok => rfl
  | error error => exact ended_error _ known

theorem meets_applyClaimed {m : Migration} (play : plays m) (inside : Transactional m)
    {known : List Ident} (turn : due known m) :
    Program.Meets ((around plays due).host sight) (applyClaimed m).run
      (Goes plays (known ++ [m.id])) ⟨none, known, none⟩ := by
  rw [applyClaimed, Task.meets_bind, Task.meets_store]
  refine ⟨.begin, ?_⟩
  intro answer st hst
  cases hst
  rw [Task.Then]
  cases answer with
  | error error => exact ended_error _ known
  | ok tx =>
      rw [Task.meets_ofExcept_ok, Task.meets_bind, Task.meets_store]
      refine ⟨.claim play inside turn, ?_⟩
      intro answer st hst
      cases hst
      rw [Task.Then]
      cases answer with
      | error error =>
          refine meets_abort ⟨rfl, ?_⟩
          rintro _ _ ⟨⟩
          exact ⟨m, play, rfl, rfl⟩
      | ok =>
          rw [Task.meets_bind, Task.meets_store]
          refine ⟨.perform play inside turn, ?_⟩
          intro answer st hst
          cases hst
          rw [Task.Then]
          cases answer with
          | error error => exact meets_abort (ended_error _ known)
          | ok =>
              rw [Task.meets_bind, Task.meets_store]
              refine ⟨.commit play inside turn, ?_⟩
              intro answer st hst
              cases hst
              rw [Task.Then, Task.meets_ofExcept]
              cases answer with
              | ok => rfl
              | error error => exact ended_error _ known

theorem meets_apply {m : Migration} (play : plays m) {known : List Ident}
    (turn : Transactional m → due known m) :
    Program.Meets ((around plays due).host sight) (apply m).run
      (Goes plays (knownAfter known m)) ⟨none, known, none⟩ := by
  rw [apply, knownAfter]
  by_cases inside : Transactional m
  · rw [if_neg (by simpa [Transactional] using inside), if_pos inside]
    exact meets_applyClaimed play inside (turn inside)
  · rw [if_pos (by simpa [Transactional] using inside), if_neg inside]
    exact meets_applyDirectly play inside known

/-! ## Runs -/

theorem meets_applyEach {ms : List Migration} (play : ∀ m ∈ ms, plays m) {known : List Ident}
    (turn : InTurn due known ms) :
    Program.Meets ((around plays due).host sight) (applyEach ms).run
      (fun result st => ∃ known, Goes plays known result st) ⟨none, known, none⟩ := by
  induction ms generalizing known with
  | nil => exact ⟨known, rfl⟩
  | cons m rest ih =>
      rw [applyEach, Task.meets_bind, Task.meets_note]
      refine ⟨trivial, ?_⟩
      rintro _ _ ⟨_, rfl⟩
      rw [Task.Then, Task.meets_bind]
      refine (meets_apply (play m List.mem_cons_self) turn.1).mono ?_
      intro result st hst
      cases result with
      | error failure => exact ⟨known, hst⟩
      | ok =>
          cases hst
          rw [Task.Then, Task.meets_bind, Task.meets_note]
          refine ⟨trivial, ?_⟩
          rintro _ _ ⟨_, rfl⟩
          exact ih (fun other hother => play other (List.mem_cons_of_mem m hother)) turn.2

theorem meets_applied (ends : Except Failure (List LedgerRow) → Standing → Prop)
    (read : ∀ rows, ends (.ok rows) ⟨none, rows.map (·.id), none⟩)
    (failed : ∀ failure, ends (.error failure) .fresh) :
    Program.Meets ((around plays due).host sight) applied.run ends .fresh := by
  rw [applied, Task.meets_bind, Task.meets_store]
  refine ⟨.read, ?_⟩
  intro answer st hst
  cases hst
  rw [Task.Then]
  cases answer with
  | ok rows => exact read rows
  | error error =>
      cases error with
      | tableMissing =>
          rw [Task.meets_bind, Task.meets_note]
          refine ⟨trivial, ?_⟩
          rintro _ _ ⟨_, rfl⟩
          exact read []
      | _ => exact failed _

theorem meets_run {dir : Path} {limit? : Option Ident}
    (play : ∀ ms, Directory.seen sight dir = .ok ms → ∀ m ∈ ms, plays m)
    (turn : ∀ ms, Directory.seen sight dir = .ok ms → ∀ rows,
      InTurn due (rows.map (·.id)) (needed rows limit? ms)) :
    Program.Meets ((around plays due).host sight) (run dir limit?).run
      (fun result st => ∃ known, Goes plays known result st) .fresh := by
  rw [run, Task.meets_bind, plan, Task.meets_bind]
  refine meets_applied _ ?_ ?_
  · intro rows
    rw [Task.Then, Task.meets_bind, Directory.meets_scan]
    cases hseen : Directory.seen sight dir with
    | error failure => exact ⟨[], ended_error failure _⟩
    | ok ms =>
        rw [Task.Then, Task.meets_pure, Task.Then, Task.meets_bind]
        have hplay : ∀ m ∈ needed rows limit? ms, plays m :=
          fun m hm => play ms hseen m (mem_needed hm)
        refine (meets_applyEach hplay (turn ms hseen rows)).mono ?_
        rintro result st ⟨known, hst⟩
        cases result with
        | ok => cases hst; exact ⟨known, rfl⟩
        | error failure => exact ⟨known, Ended.of_error hst⟩
  · intro failure
    exact ⟨[], ended_error failure []⟩

end SchemaLedger.Apply
