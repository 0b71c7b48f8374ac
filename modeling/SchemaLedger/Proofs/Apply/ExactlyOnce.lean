import SchemaLedger.Proofs.Apply.Coherence
import SchemaLedger.Proofs.Store.Memory

/-! # Exactly once

However many runs share a store, whichever of their calls fail and wherever they are dropped: the
ledger tells which migrations have been committed, and none is committed twice. -/

namespace SchemaLedger.Apply

open Store (Call Claim Effect Engine Scene Session Tx View Work)

def timesCommitted (id : Ident) (works : List Work) : Nat :=
  works.countP fun work => work.claims.any (·.id = id)

/-- The ledger and the work that has lasted account for each other. -/
structure ExactlyOnce (plays : Migration → Prop) (start now : View) : Prop where
  works : ∀ work ∈ now.committed, ∃ m, plays m ∧ work = lastingOf m
  atMostOnce : ∀ id, timesCommitted id now.committed ≤ 1
  notAgain : ∀ id, start.Recorded id → timesCommitted id now.committed = 0
  newRow : ∀ id, ¬ start.Recorded id → (now.Recorded id ↔ timesCommitted id now.committed = 1)
  rows : now.ledger = start.ledger ++ now.committed.flatMap (·.claims)

/-- A session that gives up a transaction and then ends with one of some failures. -/
def GivesUp {α : Type} (tx : Tx) (means : Failure → Prop)
    (rest : Program Store.calls (Except Failure α)) : Prop :=
  ∃ next, rest = .ask (.rollback tx) next ∧
    ∀ answer, ∃ failure, means failure ∧ next answer = .done (.error failure)

/-- A session that claims an ID that is taken ends with a conflict, whatever becomes of its
rollback. -/
def ConflictsEnd {σ α : Type} (engine : Engine σ) (plays : Migration → Prop)
    (scene : Scene σ (Except Failure α)) : Prop :=
  ∀ tx id slug next held, ⟨.ask (.claim tx id slug) next, held⟩ ∈ scene.sessions →
    (engine.view scene.store).Taken tx id → ∀ answer after,
      engine.answers (.claim tx id slug) scene.store answer after →
      engine.view after = engine.view scene.store ∧ ∃ message,
        answer = .error (.uniqueViolation message) ∧
        GivesUp tx (fun failure => ∃ m, plays m ∧ claimOf m = ⟨id, slug⟩ ∧
          failure = .claimConflict id m.name (.uniqueViolation message)) (next answer)

/-! ## Counting -/

theorem timesCommitted_eq_zero {id : Ident} {works : List Work} :
    timesCommitted id works = 0 ↔ ∀ claim ∈ works.flatMap (·.claims), claim.id ≠ id := by
  simp only [timesCommitted, List.countP_eq_zero, List.any_eq_true, decide_eq_true_eq,
    List.mem_flatMap]
  constructor
  · rintro h claim ⟨work, hwork, hclaim⟩ hid
    exact h work hwork ⟨claim, hclaim, hid⟩
  · rintro h work hwork ⟨claim, hclaim, hid⟩
    exact h claim ⟨work, hwork, hclaim⟩ hid

theorem timesCommitted_append (id : Ident) (works : List Work) (work : Work) :
    timesCommitted id (works ++ [work]) =
      timesCommitted id works + if work.claims.any (·.id = id) then 1 else 0 := by
  rw [timesCommitted, timesCommitted, List.countP_append, List.countP_singleton]

namespace ExactlyOnce

variable {plays : Migration → Prop} {first v v' : View}

theorem atStart (h : v.committed = []) : ExactlyOnce plays v v where
  works := by simp [h]
  atMostOnce := by simp [h, timesCommitted]
  notAgain := by simp [h, timesCommitted]
  newRow := by
    intro id hnew
    simp [h, timesCommitted, hnew]
  rows := by simp [h]

theorem recorded_iff (rows : v.ledger = first.ledger ++ v.committed.flatMap (·.claims)) (id : Ident) :
    v.Recorded id ↔ first.Recorded id ∨ timesCommitted id v.committed ≠ 0 := by
  rw [ne_eq, timesCommitted_eq_zero]
  simp only [View.Recorded, rows, List.mem_append]
  simp only [ne_eq, not_forall, not_not, exists_prop]
  constructor
  · rintro ⟨claim, hclaim | hclaim, hid⟩
    · exact .inl ⟨claim, hclaim, hid⟩
    · exact .inr ⟨claim, hclaim, hid⟩
  · rintro (⟨claim, hclaim, hid⟩ | ⟨claim, hclaim, hid⟩)
    · exact ⟨claim, .inl hclaim, hid⟩
    · exact ⟨claim, .inr hclaim, hid⟩

theorem of_rows (works : ∀ work ∈ v.committed, ∃ m, plays m ∧ work = lastingOf m)
    (atMostOnce : ∀ id, timesCommitted id v.committed ≤ 1)
    (notAgain : ∀ id, first.Recorded id → timesCommitted id v.committed = 0)
    (rows : v.ledger = first.ledger ++ v.committed.flatMap (·.claims)) :
    ExactlyOnce plays first v := by
  refine ⟨works, atMostOnce, notAgain, ?_, rows⟩
  intro id hnew
  have honce := atMostOnce id
  rw [recorded_iff rows id]
  constructor
  · rintro (hold | hcount)
    · exact absurd hold hnew
    · omega
  · intro hcount
    exact .inr (by omega)

theorem direct (h : ExactlyOnce plays first v) {m : Migration} (play : plays m)
    (alone : ¬ Transactional m) (rows : v'.ledger = v.ledger)
    (works : v'.committed = v.committed ++ [.direct m.content]) : ExactlyOnce plays first v' := by
  have hcount : ∀ id, timesCommitted id v'.committed = timesCommitted id v.committed := by
    intro id
    rw [works, timesCommitted_append]
    rfl
  refine of_rows ?_ ?_ ?_ ?_
  · intro work hwork
    rw [works] at hwork
    rcases List.mem_append.mp hwork with hwork | hwork
    · exact h.works work hwork
    · rw [List.mem_singleton.mp hwork]
      exact ⟨m, play, by rw [lastingOf, if_neg alone]⟩
  · intro id
    exact hcount id ▸ h.atMostOnce id
  · intro id hold
    exact (hcount id).trans (h.notAgain id hold)
  · rw [rows, h.rows, works, List.flatMap_append]
    simp [Work.direct]

theorem unit (h : ExactlyOnce plays first v) {m : Migration} (play : plays m)
    (inside : Transactional m) (free : ¬ v.Recorded m.id)
    (rows : v'.ledger = v.ledger ++ [claimOf m])
    (works : v'.committed = v.committed ++ [unitOf m]) : ExactlyOnce plays first v' := by
  have hcount : ∀ id, timesCommitted id v'.committed =
      timesCommitted id v.committed + if m.id = id then 1 else 0 := by
    intro id
    rw [works, timesCommitted_append]
    simp [unitOf, claimOf]
  have hnone : ¬ first.Recorded m.id ∧ timesCommitted m.id v.committed = 0 := by
    rw [recorded_iff h.rows] at free
    exact ⟨fun hold => free (.inl hold), by omega⟩
  refine of_rows ?_ ?_ ?_ ?_
  · intro work hwork
    rw [works] at hwork
    rcases List.mem_append.mp hwork with hwork | hwork
    · exact h.works work hwork
    · rw [List.mem_singleton.mp hwork]
      exact ⟨m, play, by rw [lastingOf, if_pos inside]⟩
  · intro id
    rw [hcount]
    by_cases heq : m.id = id
    · subst heq
      simp [hnone.2]
    · rw [if_neg heq]
      exact h.atMostOnce id
  · intro id hold
    have hne : m.id ≠ id := fun heq => hnone.1 (heq ▸ hold)
    rw [hcount, if_neg hne]
    exact h.notAgain id hold
  · rw [rows, h.rows, works, List.flatMap_append, List.append_assoc]
    simp [unitOf]

/-- Progress keeps the account, if the migrations leave the ledger alone. -/
theorem progress {due : List Ident → Migration → Prop} {effect : Effect}
    (leaves : ∀ m, plays m → Effect.Leaves (effectOf effect m)) (h : ExactlyOnce plays first v)
    (hprogress : Progress plays due effect v v') : ExactlyOnce plays first v' := by
  cases hprogress with
  | none rows works =>
      refine of_rows ?_ ?_ ?_ ?_ <;> rw [works]
      · exact h.works
      · exact h.atMostOnce
      · exact h.notAgain
      · rw [rows]
        exact h.rows
  | direct play alone rows works => exact h.direct play alone (leaves _ play _ _ rows) works
  | unit play inside _ _ free rows works =>
      exact h.unit play inside free (leaves _ play _ _ rows) works

end ExactlyOnce

/-! ## Conflicts -/

theorem givesUp_of_meets {α : Type} {plays : Migration → Prop}
    {due : List Ident → Migration → Prop} {rest : Program Store.calls (Except Failure α)}
    {tx : Tx} {work : Work} {known : List Ident} {claim : Claim} {error : StoreError}
    (h : Program.Meets (around plays due) rest (Ended plays)
      ⟨some (tx, work), known, some (claim, error)⟩) :
    GivesUp tx (fun failure => ∃ m, plays m ∧ claimOf m = claim ∧ failure = claimFailure m error)
      rest := by
  cases rest with
  | done result => cases h.closed
  | ask call next =>
      cases h.1 with
      | rollback =>
          refine ⟨next, rfl, ?_⟩
          intro answer
          have hnext := h.2 answer _ rfl
          cases hrest : next answer with
          | ask call after =>
              rw [hrest] at hnext
              cases hnext.1
          | done result =>
              rw [hrest] at hnext
              obtain ⟨m, play, hclaim, hresult⟩ := hnext.refused claim error rfl
              exact ⟨_, ⟨m, play, hclaim, rfl⟩, by rw [hresult]⟩

theorem Coherent.conflictsEnd {σ α : Type} {engine : Engine σ} {effect : Effect}
    {plays : Migration → Prop} {due : List Ident → Migration → Prop}
    {scene : Scene σ (Except Failure α)} (honours : engine.Honours effect)
    (h : Coherent engine plays due scene) : ConflictsEnd engine plays scene := by
  intro tx id slug next held hsession htaken answer after hanswer
  obtain ⟨st, hst⟩ := h.keeping _ hsession
  have hready : engine.Ready (.claim tx id slug) scene.store := fun _ hown => (hst.ready hown).2
  obtain ⟨message, rfl⟩ := honours.refuses h.possible hready htaken hanswer
  obtain ⟨_, hview⟩ := honours.answers h.possible hready hanswer
  refine ⟨hview, message, rfl, ?_⟩
  have hnext := hst.meets.2 (.error (.uniqueViolation message)) _ rfl
  cases hst.meets.1 with
  | @claim known tx m _ _ _ =>
      obtain ⟨rest, hrest, hends⟩ := givesUp_of_meets hnext
      refine ⟨rest, hrest, ?_⟩
      intro reply
      obtain ⟨_, ⟨other, play, hclaim, rfl⟩, hend⟩ := hends reply
      have hid : other.id = m.id := congrArg Claim.id hclaim
      exact ⟨_, ⟨other, play, hclaim, by rw [claimFailure, hid]⟩, hend⟩

/-! ## Every run -/

def InPlay (clients : List (Files.Sight × Job)) (m : Migration) : Prop :=
  ∃ client ∈ clients, client.2.Concerns client.1 m

theorem inTurn_of_always {due : List Ident → Migration → Prop} (always : ∀ known m, due known m)
    (known : List Ident) (ms : List Migration) : InTurn due known ms := by
  induction ms generalizing known with
  | nil => trivial
  | cons m rest ih => exact ⟨fun _ => always known m, ih _⟩

/-- Whatever steps the clients take on a store that keeps its contract, the account stays complete
and claims of what is taken end in conflicts. -/
theorem applied_exactly_once {σ : Type} {engine : Engine σ} {effect : Effect}
    (honours : engine.Honours effect) {clients : List (Files.Sight × Job)}
    (leaves : ∀ m, InPlay clients m → Effect.Leaves (effectOf effect m)) {s : σ}
    (possible : engine.possible s) (idle : ∀ tx, (engine.view s).opened tx = none)
    (new : (engine.view s).committed = []) {scene : Scene σ (Except Failure (Option Outcome))}
    (reaches : Scene.Reaches engine (opening s clients) scene) :
    ExactlyOnce (InPlay clients) (engine.view s) (engine.view scene.store) ∧
      ConflictsEnd engine (InPlay clients) scene := by
  have hstart : Coherent engine (InPlay clients) (fun _ _ => True) (opening s clients) := by
    refine .opening possible idle (fun client hclient m hm => ⟨client, hclient, hm⟩) ?_
    rintro ⟨sight, job⟩ _
    cases job with
    | run dir limit? => exact fun ms _ rows => inTurn_of_always (fun _ _ => trivial) _ _
    | apply m => exact fun _ => trivial
  have hprogress : ∀ v v', ExactlyOnce (InPlay clients) (engine.view s) v →
      Progress (InPlay clients) (fun _ _ => True) effect v v' →
      ExactlyOnce (InPlay clients) (engine.view s) v' :=
    fun v v' honce => honce.progress leaves
  obtain ⟨hcoherent, honce⟩ := hstart.reaches honours (fun m hm => (leaves m hm).keeps) hprogress
    (ExactlyOnce.atStart new) reaches
  exact ⟨honce, hcoherent.conflictsEnd honours⟩

/-! ## Two rivals -/

open Store (Memory)

def specimen : Migration :=
  ⟨.ofText "m/12-dozen.sql", "12-dozen.sql", "select 12;", ⟨12, by decide⟩, "dozen", "12"⟩

def rivals : List (Files.Sight × Job) :=
  let sight := Files.Sight.ofTree ⟨[], []⟩
  [(sight, .apply specimen), (sight, .apply specimen)]

def bootstrapped : Memory := .ofLedger (some [⟨.first, Bootstrap.slug⟩])

/-- Both have begun a transaction, and the first has come to its end. -/
def contest : Scene Memory (Except Failure (Option Outcome)) :=
  (opening bootstrapped rivals).turns Memory.answer [0, 1, 0, 0, 0]

theorem applied_exactly_once_in_contest :
    contest.store.committed = [unitOf specimen] ∧
      ExactlyOnce (InPlay rivals) bootstrapped.view contest.store.view ∧
      ConflictsEnd Memory.engine (InPlay rivals) contest := by
  have hleaves : ∀ m, InPlay rivals m → Effect.Leaves (effectOf Memory.effect m) := by
    rintro m ⟨client, hclient, hm⟩
    have hspecimen : m = specimen := by
      rcases List.mem_cons.mp hclient with rfl | hclient
      · exact hm
      · rw [List.mem_singleton.mp hclient] at hm
        exact hm
    subst hspecimen
    exact effectOf_leaves (Memory.leaves_alone (by decide)) (Memory.leaves_inside _)
  exact ⟨rfl, applied_exactly_once Memory.honours hleaves (Memory.ofLedger_sound (by simp))
    (fun _ => rfl) rfl (Scene.turns_reaches (fun _ _ => rfl) _ _)⟩

end SchemaLedger.Apply
