import SchemaLedger.Proofs.Apply.Standing
import SchemaLedger.Proofs.Store.Outlook

/-! # A run that has the store to itself

Such a run either applies a migration, and then the row and the work are what lasts of it, or it
fails and leaves the store as it was. Whether it can be applied is a question to the store in its
present condition, not to the run. -/

namespace SchemaLedger.Apply

open Store (Call Claim Effect Engine Outlook Tx Work heldBy soleSession)

variable {σ : Type}

/-! ## Migrations and outlooks -/

/-- What the statements of a migration do to the ledger: nothing if the migration is claimed, or
else they record it, once, under a slug of their own. -/
structure Recording (effect : Effect) (slugs : Migration → String) (m : Migration) : Prop where
  leaves : Transactional m → Effect.Leaves (effect.inside m.content)
  records : ¬ Transactional m → ∀ before after, effect.alone m.content before after →
    (∀ claim ∈ before, claim.id ≠ m.id) ∧ after = before ++ [⟨m.id, slugs m⟩]

def rowOf (slugs : Migration → String) (m : Migration) : Claim :=
  ⟨m.id, if Transactional m then m.slug else slugs m⟩

/-- What lasts of a store once a migration has been applied. -/
def past (slugs : Migration → String) (o : Outlook) (m : Migration) : Outlook :=
  ⟨o.ledger ++ [rowOf slugs m], o.committed ++ [lastingOf m]⟩

def pastAll (slugs : Migration → String) (o : Outlook) (ms : List Migration) : Outlook :=
  ms.foldl (past slugs) o

/-- The store lets each call of a migration in a transaction succeed. -/
structure PassesClaimed (engine : Engine σ) (o : Outlook) (m : Migration) : Prop where
  begin : engine.Succeeds o none .begin
  claim : engine.Succeeds o (some .empty) (.claim ⟨0⟩ m.id m.slug)
  perform : engine.Succeeds o (some ⟨[claimOf m], []⟩) (.executeIn ⟨0⟩ m.content)
  commit : engine.Succeeds o (some (unitOf m)) (.commit ⟨0⟩)

def Passes (engine : Engine σ) (o : Outlook) (m : Migration) : Prop :=
  if Transactional m then PassesClaimed engine o m else engine.Succeeds o none (.execute m.content)

def PassesAll (engine : Engine σ) (slugs : Migration → String) : Outlook → List Migration → Prop
  | _, [] => True
  | o, m :: rest => Passes engine o m ∧ PassesAll engine slugs (past slugs o m) rest

/-- All replies are the store's own. -/
def Faultless (engine : Engine σ) (replies : (call : Call) → σ → call.Answer → σ → Prop) : Prop :=
  ∀ call s answer s', replies call s answer s' → engine.answers call s answer s'

/-- Nothing is open, and the session knows it. -/
def Idle (engine : Engine σ) (o : Outlook) (here : σ × List Tx) : Prop :=
  engine.Amid o none here.1 ∧ here.2 = []

/-- How an attempt at a migration may end. Without faults, a migration that the store lets pass does
not fail. -/
def Attempted (engine : Engine σ) (replies : (call : Call) → σ → call.Answer → σ → Prop)
    (slugs : Migration → String) (o : Outlook) (m : Migration) :
    Except Failure Unit → σ × List Tx → Prop
  | .ok _, here => Passes engine o m ∧ Idle engine (past slugs o m) here
  | .error _, here => (Faultless engine replies → ¬ Passes engine o m) ∧ Idle engine o here

/-- How a sequence of attempts may end: at the first failure, if there is one. -/
def AttemptedAll {α : Type} (engine : Engine σ)
    (replies : (call : Call) → σ → call.Answer → σ → Prop) (slugs : Migration → String) (o : Outlook)
    (ms : List Migration) : Except Failure α → σ × List Tx → Prop
  | .ok _, here => PassesAll engine slugs o ms ∧ Idle engine (pastAll slugs o ms) here
  | .error _, here => ∃ done m rest, ms = done ++ m :: rest ∧ PassesAll engine slugs o done ∧
    (Faultless engine replies → ¬ Passes engine (pastAll slugs o done) m) ∧
    Idle engine (pastAll slugs o done) here

/-- What a run may take for the rows of the ledger: at fault it may see none. -/
def MayRead (engine : Engine σ) (replies : (call : Call) → σ → call.Answer → σ → Prop)
    (o : Outlook) (rows : List LedgerRow) : Prop :=
  (∀ id, id ∈ rows.map (·.id) ↔ o.Recorded id) ∨ (rows = [] ∧ ¬ Faultless engine replies)

/-- How a run may end. Without faults, the ledger can be read. -/
def RunEnds {α : Type} (engine : Engine σ)
    (replies : (call : Call) → σ → call.Answer → σ → Prop) (slugs : Migration → String) (o : Outlook)
    (limit? : Option Ident) (found : List Migration) (result : Except Failure α)
    (here : σ × List Tx) : Prop :=
  (¬ Faultless engine replies ∧ (∃ failure, result = .error failure) ∧ Idle engine o here) ∨
  ∃ rows, MayRead engine replies o rows ∧
    AttemptedAll engine replies slugs o (needed rows limit? found) result here

/-! ## One migration -/

section Attempt

variable {engine : Engine σ} {effect : Effect} {slugs : Migration → String}
variable {replies : (call : Call) → σ → call.Answer → σ → Prop} {safe : σ → List Tx → Prop}
variable {sight : Files.Sight} {o : Outlook} {m : Migration} {s : σ}

theorem not_succeeds (dependable : engine.Dependable) (faultless : Faultless engine replies)
    (work? : Option Work) (call : Call) (tx : Tx) {s' : σ} {answer : (call.on tx).Answer}
    (amid : engine.Amid o (work?.map (tx, ·)) s) (hreply : replies (call.on tx) s answer s')
    (hfailed : (call.on tx).succeeded answer = false) : ¬ engine.Succeeds o work? call := by
  intro once
  have h := dependable.again once amid (faultless _ _ _ _ hreply)
  rw [hfailed] at h
  cases h

theorem succeeds (work? : Option Work) (call : Call) (tx : Tx) {s' : σ}
    {answer : (call.on tx).Answer} (amid : engine.Amid o (work?.map (tx, ·)) s)
    (hreply : engine.Replies (call.on tx) s answer s')
    (hsucceeded : (call.on tx).succeeded answer = true) : engine.Succeeds o work? call := by
  cases hreply with
  | answered hanswer => exact ⟨tx, s, answer, s', amid, hanswer, hsucceeded⟩
  | failed error hfails =>
      exfalso
      cases call <;> cases hsucceeded

variable (honours : engine.Honours effect) (dependable : engine.Dependable)
variable (fair : ∀ call s answer s', replies call s answer s' → engine.Replies call s answer s')
variable (hsafe : ∀ work? s, engine.Amid o work? s → safe s (heldBy work?))

include honours fair hsafe

theorem meets_giveUp {tx : Tx} {work : Work} (amid : engine.Amid o (some (tx, work)) s)
    (failure : Failure) {ends : Except Failure Unit → σ × List Tx → Prop}
    (h : ∀ s', engine.Amid o none s' → ends (.error failure) (s', [])) :
    Program.Meets ((soleSession replies safe).host sight) (abort tx m failure).run ends
      (s, [tx]) := by
  rw [abort, Task.meets_bind, Task.meets_store]
  refine ⟨hsafe _ s amid, ?_⟩
  rintro answer ⟨s', held⟩ ⟨hreply, hheld⟩
  have hended : held = [] := hheld.trans (List.erase_cons_head ..)
  subst hended
  have hafter := amid.rollback honours (fair _ _ _ _ hreply)
  cases answer with
  | ok => exact h s' hafter
  | error error =>
      rw [Task.Then, Task.meets_bind, Task.meets_note]
      refine ⟨trivial, ?_⟩
      rintro _ _ ⟨_, rfl⟩
      exact h s' hafter

include dependable

theorem meets_attemptDirectly (recording : Recording effect slugs m) (alone : ¬ Transactional m)
    (amid : engine.Amid o none s) :
    Program.Meets ((soleSession replies safe).host sight) (applyDirectly m).run
      (Attempted engine replies slugs o m) (s, []) := by
  rw [applyDirectly, Task.meets_bind, Task.meets_note]
  refine ⟨trivial, ?_⟩
  rintro _ _ ⟨_, rfl⟩
  rw [Task.Then, Task.meets_bind, Task.meets_store]
  refine ⟨hsafe none s amid, ?_⟩
  rintro answer ⟨s', held⟩ ⟨hreply, rfl⟩
  have hafter := amid.execute honours (fair _ _ _ _ hreply)
  rw [Task.Then, Task.meets_ofExcept]
  cases answer with
  | error error =>
      refine ⟨?_, hafter, rfl⟩
      intro faultless
      rw [Passes, if_neg alone]
      exact not_succeeds dependable faultless none (.execute m.content) ⟨0⟩ amid hreply rfl
  | ok =>
      obtain ⟨after, heffect, hamid⟩ := hafter
      obtain ⟨_, rfl⟩ := recording.records alone _ _ heffect
      refine ⟨?_, ?_, rfl⟩
      · rw [Passes, if_neg alone]
        exact succeeds none (.execute m.content) ⟨0⟩ amid (fair _ _ _ _ hreply) rfl
      · rw [past, rowOf, lastingOf, if_neg alone, if_neg alone]
        exact hamid

omit honours dependable fair hsafe in
theorem passes_iff (inside : Transactional m) : Passes engine o m ↔
    engine.Succeeds o none .begin ∧
    engine.Succeeds o (some .empty) (.claim ⟨0⟩ m.id m.slug) ∧
    engine.Succeeds o (some ⟨[claimOf m], []⟩) (.executeIn ⟨0⟩ m.content) ∧
    engine.Succeeds o (some (unitOf m)) (.commit ⟨0⟩) := by
  rw [Passes, if_pos inside]
  constructor
  · intro h
    exact ⟨h.begin, h.claim, h.perform, h.commit⟩
  · rintro ⟨begin, claim, perform, commit⟩
    exact ⟨begin, claim, perform, commit⟩

theorem meets_attemptCommit (recording : Recording effect slugs m) (inside : Transactional m)
    {tx : Tx} (amid : engine.Amid o (some (tx, unitOf m)) s)
    (passes : Passes engine o m ↔ engine.Succeeds o (some (unitOf m)) (.commit ⟨0⟩)) :
    Program.Meets ((soleSession replies safe).host sight)
      (do Task.ofExcept (Failure.applyFailure m.name) (← Task.store (.commit tx)) :
        Task Failure Unit).run
      (Attempted engine replies slugs o m) (s, [tx]) := by
  rw [Task.meets_bind, Task.meets_store]
  refine ⟨hsafe _ s amid, ?_⟩
  rintro answer ⟨s', held⟩ ⟨hreply, hheld⟩
  have hended : held = [] := hheld.trans (List.erase_cons_head ..)
  subst hended
  have hcommitted := amid.commit honours (fair _ _ _ _ hreply)
  rw [Task.Then, Task.meets_ofExcept]
  cases answer with
  | error error =>
      refine ⟨?_, hcommitted, rfl⟩
      intro faultless hpass
      exact not_succeeds dependable faultless (some (unitOf m)) (.commit ⟨0⟩) tx amid hreply rfl
        (passes.mp hpass)
  | ok =>
      obtain ⟨after, hchain, hlasts⟩ := hcommitted
      obtain ⟨between, hfirst, hlast⟩ := hchain
      cases hlast
      cases recording.leaves inside _ _ hfirst
      have hcommit : engine.Succeeds o (some (unitOf m)) (.commit ⟨0⟩) :=
        succeeds (some (unitOf m)) (.commit ⟨0⟩) tx amid (fair _ _ _ _ hreply) rfl
      refine ⟨passes.mpr hcommit, ?_, rfl⟩
      rw [past, rowOf, lastingOf, if_pos inside, if_pos inside]
      exact hlasts

theorem meets_attemptPerform (recording : Recording effect slugs m) (inside : Transactional m)
    {tx : Tx} (amid : engine.Amid o (some (tx, ⟨[claimOf m], []⟩)) s)
    (passes : Passes engine o m ↔
      engine.Succeeds o (some ⟨[claimOf m], []⟩) (.executeIn ⟨0⟩ m.content) ∧
      engine.Succeeds o (some (unitOf m)) (.commit ⟨0⟩)) :
    Program.Meets ((soleSession replies safe).host sight)
      (do
        match ← Task.store (.executeIn tx m.content) with
        | .error error => abort tx m (.applyFailure m.name error)
        | .ok () => Task.ofExcept (Failure.applyFailure m.name) (← Task.store (.commit tx)) :
        Task Failure Unit).run
      (Attempted engine replies slugs o m) (s, [tx]) := by
  rw [Task.meets_bind, Task.meets_store]
  refine ⟨hsafe _ s amid, ?_⟩
  rintro answer ⟨s', held⟩ ⟨hreply, rfl⟩
  have hperformed := amid.executeIn honours (fair _ _ _ _ hreply)
  rw [Task.Then]
  cases answer with
  | error error =>
      refine meets_giveUp honours fair hsafe hperformed _ ?_
      intro s' hgone
      refine ⟨?_, hgone, rfl⟩
      intro faultless hpass
      exact not_succeeds dependable faultless (some ⟨[claimOf m], []⟩) (.executeIn ⟨0⟩ m.content) tx
        amid hreply rfl (passes.mp hpass).1
  | ok =>
      have hperform : engine.Succeeds o (some ⟨[claimOf m], []⟩) (.executeIn ⟨0⟩ m.content) :=
        succeeds (some ⟨[claimOf m], []⟩) (.executeIn ⟨0⟩ m.content) tx amid (fair _ _ _ _ hreply)
          rfl
      exact meets_attemptCommit honours dependable fair hsafe recording inside hperformed
        (passes.trans (and_iff_right hperform))

theorem meets_attemptClaimed (recording : Recording effect slugs m) (inside : Transactional m)
    (amid : engine.Amid o none s) :
    Program.Meets ((soleSession replies safe).host sight) (applyClaimed m).run
      (Attempted engine replies slugs o m) (s, []) := by
  have hpasses : Passes engine o m ↔ _ := passes_iff inside
  rw [applyClaimed, Task.meets_bind, Task.meets_store]
  refine ⟨hsafe none s amid, ?_⟩
  rintro answer ⟨s₁, held⟩ ⟨hreply, rfl⟩
  have hbegun := amid.begin honours (fair _ _ _ _ hreply)
  rw [Task.Then]
  cases answer with
  | error error =>
      refine ⟨?_, hbegun, rfl⟩
      intro faultless hpass
      exact not_succeeds dependable faultless none .begin ⟨0⟩ amid hreply rfl (hpasses.mp hpass).1
  | ok tx =>
      have hbegin : engine.Succeeds o none .begin :=
        succeeds none .begin ⟨0⟩ amid (fair _ _ _ _ hreply) rfl
      have hpasses := hpasses.trans (and_iff_right hbegin)
      rw [Task.meets_ofExcept_ok, Task.meets_bind, Task.meets_store]
      refine ⟨hsafe _ s₁ hbegun, ?_⟩
      rintro answer ⟨s₂, held⟩ ⟨hreply, rfl⟩
      have hclaimed := hbegun.claim honours (fair _ _ _ _ hreply)
      rw [Task.Then]
      cases answer with
      | error error =>
          refine meets_giveUp honours fair hsafe hclaimed _ ?_
          intro s' hgone
          refine ⟨?_, hgone, rfl⟩
          intro faultless hpass
          exact not_succeeds dependable faultless (some .empty) (.claim ⟨0⟩ m.id m.slug) tx hbegun
            hreply rfl (hpasses.mp hpass).1
      | ok =>
          have hclaim : engine.Succeeds o (some .empty) (.claim ⟨0⟩ m.id m.slug) :=
            succeeds (some .empty) (.claim ⟨0⟩ m.id m.slug) tx hbegun (fair _ _ _ _ hreply) rfl
          exact meets_attemptPerform honours dependable fair hsafe recording inside hclaimed.2
            (hpasses.trans (and_iff_right hclaim))

theorem meets_attempt (recording : Recording effect slugs m) (amid : engine.Amid o none s) :
    Program.Meets ((soleSession replies safe).host sight) (apply m).run
      (Attempted engine replies slugs o m) (s, []) := by
  rw [apply]
  by_cases inside : Transactional m
  · rw [if_neg (by simpa [Transactional] using inside)]
    exact meets_attemptClaimed honours dependable fair hsafe recording inside amid
  · rw [if_pos (by simpa [Transactional] using inside)]
    exact meets_attemptDirectly honours dependable fair hsafe recording inside amid

/-! ## Runs -/

omit honours dependable fair hsafe

theorem meets_attemptEach (honours : engine.Honours effect) (dependable : engine.Dependable)
    (fair : ∀ call s answer s', replies call s answer s' → engine.Replies call s answer s')
    {ms : List Migration} (recording : ∀ m ∈ ms, Recording effect slugs m)
    (hsafe : ∀ done, done <+: ms → PassesAll engine slugs o done → ∀ work? s,
      engine.Amid (pastAll slugs o done) work? s → safe s (heldBy work?))
    (amid : engine.Amid o none s) :
    Program.Meets ((soleSession replies safe).host sight) (applyEach ms).run
      (AttemptedAll engine replies slugs o ms) (s, []) := by
  induction ms generalizing o s with
  | nil => exact ⟨trivial, amid, rfl⟩
  | cons m rest ih =>
      rw [applyEach, Task.meets_bind, Task.meets_note]
      refine ⟨trivial, ?_⟩
      rintro _ _ ⟨_, rfl⟩
      rw [Task.Then, Task.meets_bind]
      have hfirst := hsafe [] List.nil_prefix trivial
      refine (meets_attempt honours dependable fair hfirst (recording m List.mem_cons_self)
        amid).mono ?_
      rintro result ⟨s', held⟩ hattempted
      cases result with
      | error failure => exact ⟨[], m, rest, rfl, trivial, hattempted.1, hattempted.2⟩
      | ok =>
          obtain ⟨hpasses, hamid, rfl⟩ := hattempted
          rw [Task.Then, Task.meets_bind, Task.meets_note]
          refine ⟨trivial, ?_⟩
          rintro _ _ ⟨_, rfl⟩
          -- Wherever the rest is broken off, this migration has been applied before.
          have hrest : ∀ done, done <+: rest → PassesAll engine slugs (past slugs o m) done →
              ∀ work? s, engine.Amid (pastAll slugs (past slugs o m) done) work? s →
              safe s (heldBy work?) :=
            fun done hdone hpass => hsafe (m :: done) (List.cons_prefix_cons.mpr ⟨rfl, hdone⟩)
              ⟨hpasses, hpass⟩
          have hmeets := ih (fun other hother => recording other (List.mem_cons_of_mem m hother))
            hrest hamid
          refine hmeets.mono ?_
          rintro result here hend
          cases result with
          | ok => exact ⟨⟨hpasses, hend.1⟩, hend.2⟩
          | error failure =>
              obtain ⟨done, x, after, rfl, hdone, hfailed, hidle⟩ := hend
              exact ⟨m :: done, x, after, rfl, ⟨hpasses, hdone⟩, hfailed, hidle⟩

theorem meets_reading (honours : engine.Honours effect) (dependable : engine.Dependable)
    (fair : ∀ call s answer s', replies call s answer s' → engine.Replies call s answer s')
    (hsafe : safe s []) (amid : engine.Amid o none s)
    {ends : Except Failure (List LedgerRow) → σ × List Tx → Prop}
    (read : ∀ rows s', MayRead engine replies o rows → engine.Amid o none s' →
      ends (.ok rows) (s', []))
    (unread : ∀ failure s', ¬ Faultless engine replies → engine.Amid o none s' →
      ends (.error failure) (s', [])) :
    Program.Meets ((soleSession replies safe).host sight) applied.run ends (s, []) := by
  rw [applied, Task.meets_bind, Task.meets_store]
  refine ⟨hsafe, ?_⟩
  rintro answer ⟨s', held⟩ ⟨hreply, rfl⟩
  obtain ⟨hamid, hrows⟩ := amid.applied honours (fair _ _ _ _ hreply)
  rw [Task.Then]
  cases answer with
  | ok rows =>
      refine read rows s' (.inl ?_) hamid
      intro id
      have hperm := (hrows rows rfl).map (·.id)
      rw [List.map_map] at hperm
      exact hperm.mem_iff.trans List.mem_map
  | error error =>
      -- Without faults, the ledger cannot be read only if there is none.
      have hown : Faultless engine replies → error = .tableMissing ∧ o.ledger = [] := by
        intro faultless
        rcases dependable.reads amid (faultless _ _ _ _ hreply) with ⟨rows, hread⟩ | ⟨hread, hnone⟩
        · cases hread
        · cases hread
          exact ⟨rfl, hnone⟩
      cases error with
      | tableMissing =>
          rw [Task.meets_bind, Task.meets_note]
          refine ⟨trivial, ?_⟩
          rintro _ _ ⟨_, rfl⟩
          refine read [] s' ?_ hamid
          by_cases faultless : Faultless engine replies
          · left
            intro id
            simp [Outlook.Recorded, (hown faultless).2]
          · exact .inr ⟨rfl, faultless⟩
      | _ =>
          refine unread _ s' ?_ hamid
          intro faultless
          cases (hown faultless).1

/-- A run goes as its attempts do, on the migrations that it takes to be needed. -/
theorem meets_soleRun (honours : engine.Honours effect) (dependable : engine.Dependable)
    (fair : ∀ call s answer s', replies call s answer s' → engine.Replies call s answer s')
    {dir : Path} {limit? : Option Ident} {found : List Migration}
    (seen : Directory.seen sight dir = .ok found) (recording : ∀ m ∈ found, Recording effect slugs m)
    (hsafe : ∀ rows done, MayRead engine replies o rows → done <+: needed rows limit? found →
      PassesAll engine slugs o done → ∀ work? s,
      engine.Amid (pastAll slugs o done) work? s → safe s (heldBy work?))
    (hstart : safe s []) (amid : engine.Amid o none s) :
    Program.Meets ((soleSession replies safe).host sight) (run dir limit?).run
      (RunEnds engine replies slugs o limit? found) (s, []) := by
  rw [run, Task.meets_bind, plan, Task.meets_bind]
  refine meets_reading honours dependable fair hstart amid ?_ ?_
  · intro rows s' hread hamid
    rw [Task.Then, Task.meets_bind, Directory.meets_scan, seen, Task.Then, Task.meets_pure, Task.Then,
      Task.meets_bind]
    have hneeded : ∀ m ∈ needed rows limit? found, Recording effect slugs m :=
      fun m hm => recording m (mem_needed hm)
    refine (meets_attemptEach honours dependable fair hneeded (hsafe rows · hread) hamid).mono ?_
    intro result here hend
    cases result with
    | ok => exact .inr ⟨rows, hread, hend⟩
    | error failure => exact .inr ⟨rows, hread, hend⟩
  · intro failure s' hfault hamid
    exact .inl ⟨hfault, ⟨failure, rfl⟩, hamid, rfl⟩

end Attempt

/-- However a run ends, it has applied a beginning of what it took to be needed. -/
theorem RunEnds.applied {α : Type} {engine : Engine σ} {slugs : Migration → String} {o : Outlook}
    {replies : (call : Call) → σ → call.Answer → σ → Prop} {limit? : Option Ident}
    {found : List Migration} {result : Except Failure α} {here : σ × List Tx}
    (h : RunEnds engine replies slugs o limit? found result here) :
    Idle engine o here ∨ ∃ rows done, MayRead engine replies o rows ∧
      done <+: needed rows limit? found ∧ PassesAll engine slugs o done ∧
      Idle engine (pastAll slugs o done) here := by
  rcases h with ⟨_, _, hidle⟩ | ⟨rows, hread, hend⟩
  · exact .inl hidle
  · right
    cases result with
    | ok => exact ⟨rows, _, hread, List.prefix_refl _, hend⟩
    | error failure =>
        obtain ⟨done, m, rest, hsplit, hpass, _, hidle⟩ := hend
        exact ⟨rows, done, hread, ⟨m :: rest, hsplit.symm⟩, hpass, hidle⟩

end SchemaLedger.Apply
