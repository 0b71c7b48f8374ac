import SchemaLedger.Proofs.Apply.Standing
import SchemaLedger.Proofs.Store.Scene

/-! # Runs that share a store

Each of the sessions on a store keeps to the rule from where it stands, and the store has what each
relies on. This is kept by every step, whichever session makes it and however it is answered. -/

namespace SchemaLedger.Apply

open Store (Call Claim Change Effect Engine Permits Scene Session Tx View Work)

variable {plays : Migration → Prop} {due : List Ident → Migration → Prop}
variable {σ α : Type} {engine : Engine σ} {effect : Effect}

/-! ## Calls by the rule -/

namespace Rule

variable {st : Standing} {call : Call} {answer : call.Answer} {v v' : View}

theorem own (h : Rule plays due st call) {tx : Tx} (hown : call.tx? = some tx) :
    ∃ work, st.work? = some (tx, work) := by
  cases h <;> cases hown <;> exact ⟨_, rfl⟩

theorem keeps (h : Rule plays due st call)
    (work : ∀ tx work, st.work? = some (tx, work) → v.opened tx = some work)
    (keeping : ∀ m, plays m → Effect.Keeps (effectOf effect m)) : call.Keeps effect v := by
  cases h with
  | @direct known m play alone =>
      have hkeeps := keeping m play
      rwa [effectOf, if_neg alone] at hkeeps
  | @commit known tx m play inside _ =>
      have hkeeps := keeping m play
      rw [effectOf, if_pos inside] at hkeeps
      intro found hfound sql hsql
      cases (work tx _ rfl).symm.trans hfound
      rwa [List.mem_singleton.mp hsql]
  | _ => trivial

theorem held_after (h : Rule plays due st call) (answer : call.Answer) :
    (st.after call answer).held = call.heldAfter answer st.held := by
  cases h with
  | @commit known tx m =>
      have hended : ([tx] : List Tx).erase tx = [] := List.erase_cons_head ..
      cases answer <;> exact hended.symm
  | @rollback known tx work refusal? =>
      have hended : ([tx] : List Tx).erase tx = [] := List.erase_cons_head ..
      exact hended.symm
  | _ => cases answer <;> rfl

theorem work_after (h : Rule plays due st call)
    (work : ∀ tx work, st.work? = some (tx, work) → v.opened tx = some work)
    (permits : Permits effect call v answer v') :
    ∀ tx work, (st.after call answer).work? = some (tx, work) → v'.opened tx = some work := by
  cases h with
  | read | direct | commit | rollback => cases answer <;> exact nofun
  | begin =>
      cases answer with
      | error error => exact nofun
      | ok tx =>
          obtain ⟨_, rfl⟩ := permits
          rintro _ _ ⟨⟩
          exact v.alter_opened_self tx _
  | @claim known tx m =>
      cases answer with
      | error error =>
          cases permits
          exact work
      | ok =>
          obtain ⟨_, mine, hmine, rfl⟩ := permits
          cases (work tx _ rfl).symm.trans hmine
          rintro _ _ ⟨⟩
          exact v.alter_opened_self tx _
  | @perform known tx m =>
      cases answer with
      | error error =>
          cases permits
          exact work
      | ok =>
          obtain ⟨mine, hmine, rfl⟩ := permits
          cases (work tx _ rfl).symm.trans hmine
          rintro _ _ ⟨⟩
          exact v.alter_opened_self tx _

theorem known_after (h : Rule plays due st call)
    (work : ∀ tx work, st.work? = some (tx, work) → v.opened tx = some work)
    (keeping : ∀ m, plays m → Effect.Keeps (effectOf effect m))
    (known : ∀ id ∈ st.known, v'.Recorded id) (permits : Permits effect call v answer v') :
    ∀ id ∈ (st.after call answer).known, v'.Recorded id := by
  have hkeeps := h.keeps work keeping
  cases h with
  | read =>
      cases answer with
      | error error => exact known
      | ok found =>
          obtain ⟨hrows, rfl⟩ := permits
          intro id hid
          obtain ⟨row, hrow, rfl⟩ := List.mem_map.mp hid
          exact ⟨_, hrows.subset (List.mem_map_of_mem hrow), rfl⟩
  | @commit before tx m play =>
      cases answer with
      | error error => exact known
      | ok =>
          have hopen := work tx _ rfl
          obtain ⟨mine, after, hmine, hchain, _, rfl⟩ := permits
          cases hopen.symm.trans hmine
          have hbodies : ∀ sql ∈ (unitOf m).bodies, Effect.Keeps (effect.inside sql) :=
            hkeeps _ hopen
          intro id hid
          rcases List.mem_append.mp hid with hid | hid
          · exact known id hid
          · obtain ⟨claim, hclaim, rfl⟩ := List.mem_map.mp hid
            have hlasts := Effect.chain_keeps hbodies hchain
            exact ⟨claim, hlasts (List.mem_append_right _ hclaim), rfl⟩
  | _ => cases answer <;> exact known

end Rule

/-! ## One session -/

/-- A session keeps to the rule from where it stands, and the store has what it relies on. -/
structure Keeping (plays : Migration → Prop) (due : List Ident → Migration → Prop) (v : View)
    (session : Session (Except Failure α)) (st : Standing) : Prop where
  meets : Program.Meets (around plays due) session.rest (Ended plays) st
  held : session.held = st.held
  work : ∀ tx work, st.work? = some (tx, work) → v.opened tx = some work
  known : ∀ id ∈ st.known, v.Recorded id

namespace Keeping

variable {v v' : View} {session : Session (Except Failure α)} {st : Standing} {call : Call}

theorem mem_held (h : Keeping plays due v session st) {tx : Tx} {work : Work}
    (hwork : st.work? = some (tx, work)) : tx ∈ session.held := by
  simp [h.held, Standing.held, hwork]

theorem opened_of_mem (h : Keeping plays due v session st) {tx : Tx} (htx : tx ∈ session.held) :
    ∃ work, v.opened tx = some work := by
  rw [h.held, Standing.held, Option.mem_toList] at htx
  obtain ⟨⟨own, work⟩, hwork, rfl⟩ := Option.map_eq_some_iff.mp htx
  exact ⟨work, h.work own work hwork⟩

/-- A session is not disturbed by what the store does to the transactions of others. -/
theorem undisturbed (h : Keeping plays due v session st)
    (opened : ∀ tx ∈ session.held, ∀ work, v.opened tx = some work → v'.opened tx = some work)
    (rows : v.ledger ⊆ v'.ledger) : Keeping plays due v' session st where
  meets := h.meets
  held := h.held
  work := fun tx work hwork => opened tx (h.mem_held hwork) work (h.work tx work hwork)
  known := fun id hid => (h.known id hid).mono rows

theorem called {next : call.Answer → Program Store.calls (Except Failure α)} {held : List Tx}
    (keeps : ∀ m, plays m → Effect.Keeps (effectOf effect m))
    (h : Keeping plays due v ⟨.ask call next, held⟩ st) {answer : call.Answer}
    (permits : Permits effect call v answer v') (rows : v.ledger ⊆ v'.ledger) :
    Keeping plays due v' ⟨next answer, call.heldAfter answer held⟩ (st.after call answer) := by
  have hrule : Rule plays due st call := h.meets.1
  have hheld : held = st.held := h.held
  refine ⟨h.meets.2 answer _ rfl, ?_, hrule.work_after h.work permits, ?_⟩
  · rw [hheld, hrule.held_after answer]
  · exact hrule.known_after h.work keeps (fun id hid => (h.known id hid).mono rows) permits

end Keeping

/-! ## All sessions -/

/-- Every session keeps to the rule, on transactions of its own. -/
structure Coherent (engine : Engine σ) (plays : Migration → Prop)
    (due : List Ident → Migration → Prop) (scene : Scene σ (Except Failure α)) : Prop where
  possible : engine.possible scene.store
  exclusive : (engine.view scene.store).Exclusive
  keeping : ∀ session ∈ scene.sessions,
    ∃ st, Keeping plays due (engine.view scene.store) session st
  apart : (scene.sessions.flatMap (·.held)).Nodup

/-- What a step makes of the rows and of the work that has lasted. -/
inductive Progress (plays : Migration → Prop) (due : List Ident → Migration → Prop)
    (effect : Effect) (v v' : View) : Prop
  | none (rows : v'.ledger = v.ledger) (works : v'.committed = v.committed)
  | direct {m : Migration} (play : plays m) (alone : ¬ Transactional m)
    (rows : effectOf effect m v.ledger v'.ledger)
    (works : v'.committed = v.committed ++ [.direct m.content])
  | unit {m : Migration} {known : List Ident} (play : plays m) (inside : Transactional m)
    (seen : ∀ id ∈ known, v.Recorded id) (turn : due known m) (free : ¬ v.Recorded m.id)
    (rows : effectOf effect m (v.ledger ++ [claimOf m]) v'.ledger)
    (works : v'.committed = v.committed ++ [unitOf m])

namespace Keeping

variable {v v' : View} {st : Standing} {call : Call} {held : List Tx}
variable {next : call.Answer → Program Store.calls (Except Failure α)}

theorem ready (h : Keeping plays due v ⟨.ask call next, held⟩ st) {tx : Tx}
    (hown : call.tx? = some tx) : tx ∈ held ∧ ∃ work, v.opened tx = some work := by
  obtain ⟨work, hwork⟩ := Rule.own h.meets.1 hown
  exact ⟨h.mem_held hwork, work, h.work tx work hwork⟩

theorem grows (keeps : ∀ m, plays m → Effect.Keeps (effectOf effect m))
    (h : Keeping plays due v ⟨.ask call next, held⟩ st) {answer : call.Answer}
    (permits : Permits effect call v answer v') : v.ledger ⊆ v'.ledger := by
  exact permits.change.grows (Rule.keeps h.meets.1 h.work keeps)

theorem progress (exclusive : v.Exclusive) (h : Keeping plays due v ⟨.ask call next, held⟩ st)
    {answer : call.Answer} (permits : Permits effect call v answer v') :
    Progress plays due effect v v' := by
  have hchange := permits.change
  cases hchange with
  | same | opened | claimed | performed | closed => exact .none rfl rfl
  | @ran sql after hrows _ =>
      cases h.meets.1 with
      | @direct known m play alone =>
          refine .direct play alone ?_ rfl
          rwa [effectOf, if_neg alone]
  | @committed tx work after hmine hrows _ =>
      cases h.meets.1 with
      | @commit known tx m play inside turn =>
          cases (h.work tx _ rfl).symm.trans hmine
          obtain ⟨between, hfirst, hlast⟩ := hrows
          cases hlast
          have hheld : v.Holds tx m.id := ⟨_, hmine, claimOf m, List.mem_cons_self, rfl⟩
          have hfree : ¬ v.Recorded m.id := fun hrecorded => exclusive tx m.id hheld (.inl hrecorded)
          refine .unit play inside h.known turn hfree ?_ rfl
          rwa [effectOf, if_pos inside]

end Keeping

namespace Coherent

variable {a b : Scene σ (Except Failure α)}

theorem replied (honours : engine.Honours effect) {s s' : σ} {before others : List (Session _)}
    {call : Call} {next : call.Answer → Program Store.calls (Except Failure α)} {held : List Tx}
    {answer : call.Answer}
    (h : Coherent engine plays due ⟨s, before ++ ⟨.ask call next, held⟩ :: others⟩)
    (hreply : engine.Replies call s answer s') :
    ∃ st, Keeping plays due (engine.view s) ⟨.ask call next, held⟩ st ∧ engine.possible s' ∧
      Permits effect call (engine.view s) answer (engine.view s') := by
  obtain ⟨st, hst⟩ := h.keeping _ (List.mem_append_right _ List.mem_cons_self)
  obtain ⟨hpossible, hpermits⟩ := honours.replies h.possible (fun tx hown => (hst.ready hown).2) hreply
  exact ⟨st, hst, hpossible, hpermits⟩

theorem called (honours : engine.Honours effect) (keeps : ∀ m, plays m → Effect.Keeps (effectOf effect m))
    {s s' : σ} {before others : List (Session _)} {call : Call}
    {next : call.Answer → Program Store.calls (Except Failure α)} {held : List Tx}
    {answer : call.Answer}
    (h : Coherent engine plays due ⟨s, before ++ ⟨.ask call next, held⟩ :: others⟩)
    (hreply : engine.Replies call s answer s') :
    Coherent engine plays due
      ⟨s', before ++ ⟨next answer, call.heldAfter answer held⟩ :: others⟩ := by
  obtain ⟨st, hst, hpossible, hpermits⟩ := h.replied honours hreply
  obtain ⟨hown, hrest, hapart⟩ := (Scene.apart_iff before others _).mp h.apart
  have hgrows := hst.grows keeps hpermits
  have hchange := hpermits.change
  have hother : ∀ session ∈ before ++ others, session ∈ before ++ ⟨.ask call next, held⟩ :: others := by
    intro session hsession
    rcases List.mem_append.mp hsession with hsession | hsession
    · exact List.mem_append_left _ hsession
    · exact List.mem_append_right _ (List.mem_cons_of_mem _ hsession)
  refine ⟨hpossible, hchange.exclusive h.exclusive, ?_, (Scene.apart_iff before others _).mpr ?_⟩
  · intro session hsession
    rcases List.mem_cons.mp (List.perm_middle.mem_iff.mp hsession) with rfl | hsession
    · exact ⟨_, hst.called keeps hpermits hgrows⟩
    · obtain ⟨standing, hstanding⟩ := h.keeping session (hother session hsession)
      refine ⟨standing, hstanding.undisturbed ?_ hgrows⟩
      intro tx htx work hopen
      refine hchange.frame ?_ hopen
      intro hcall
      exact hapart tx (hst.ready hcall).1 session hsession htx
  · rcases hpermits.heldAfter held with hsub | ⟨tx, hheld, hfresh⟩
    · exact ⟨hown.sublist hsub, hrest, fun tx htx => hapart tx (hsub.subset htx)⟩
    · have hopen : ∀ session ∈ before ++ ⟨.ask call next, held⟩ :: others, tx ∉ session.held := by
        intro session hsession htx
        obtain ⟨standing, hstanding⟩ := h.keeping session hsession
        obtain ⟨work, hwork⟩ := hstanding.opened_of_mem htx
        cases hfresh.symm.trans hwork
      refine ⟨?_, hrest, ?_⟩
      · rw [hheld]
        exact List.nodup_cons.mpr ⟨hopen _ (List.mem_append_right _ List.mem_cons_self), hown⟩
      · intro one hone session hsession
        rw [hheld] at hone
        rcases List.mem_cons.mp hone with rfl | hone
        · exact hopen session (hother session hsession)
        · exact hapart one hone session hsession

theorem dropped (honours : engine.Honours effect) {s s' : σ} {before others : List (Session _)}
    {session : Session (Except Failure α)}
    (h : Coherent engine plays due ⟨s, before ++ session :: others⟩)
    (hdrop : engine.DropsAll session.held s s') :
    Coherent engine plays due ⟨s', before ++ others⟩ := by
  obtain ⟨hpossible, hview⟩ := honours.dropsAll h.possible hdrop
  obtain ⟨_, hrest, hapart⟩ := (Scene.apart_iff before others _).mp h.apart
  refine ⟨hpossible, ?_, ?_, hrest⟩
  · exact hview ▸ h.exclusive.without session.held
  · intro other hother
    have hmem : other ∈ before ++ session :: others :=
      List.perm_middle.mem_iff.mpr (List.mem_cons_of_mem session hother)
    obtain ⟨st, hst⟩ := h.keeping other hmem
    refine ⟨st, hst.undisturbed ?_ ?_⟩
    · intro tx htx work hopen
      have hnot : tx ∉ session.held := fun hmine => hapart tx hmine other hother htx
      rw [hview, View.without_opened _ hnot, hopen]
    · rw [hview, View.without_ledger]
      exact List.Subset.refl _

theorem step (honours : engine.Honours effect) (keeps : ∀ m, plays m → Effect.Keeps (effectOf effect m))
    (h : Coherent engine plays due a) (hstep : Scene.Step engine a b) :
    Coherent engine plays due b := by
  cases hstep with
  | called hreply => exact h.called honours keeps hreply
  | dropped hdrop => exact h.dropped honours hdrop

/-- Rows and lasting work come from calls by the rule only. -/
theorem progress (honours : engine.Honours effect) (h : Coherent engine plays due a)
    (hstep : Scene.Step engine a b) :
    Progress plays due effect (engine.view a.store) (engine.view b.store) := by
  cases hstep with
  | called hreply =>
      obtain ⟨st, hst, _, hpermits⟩ := h.replied honours hreply
      exact hst.progress h.exclusive hpermits
  | dropped hdrop =>
      obtain ⟨_, hview⟩ := honours.dropsAll h.possible hdrop
      exact .none (by rw [hview, View.without_ledger]) (by rw [hview, View.without_committed])

/-- What progress keeps holds in every scene that coherent sessions reach. -/
theorem reaches (honours : engine.Honours effect)
    (keeps : ∀ m, plays m → Effect.Keeps (effectOf effect m)) {P : View → Prop}
    (progress : ∀ v v', P v → Progress plays due effect v v' → P v')
    (h : Coherent engine plays due a) (first : P (engine.view a.store))
    (hreaches : Scene.Reaches engine a b) :
    Coherent engine plays due b ∧ P (engine.view b.store) := by
  refine hreaches.keeps (P := fun scene => Coherent engine plays due scene ∧
    P (engine.view scene.store)) ⟨h, first⟩ ?_
  rintro one other ⟨hone, hP⟩ hstep
  exact ⟨hone.step honours keeps hstep, progress _ _ hP (hone.progress honours hstep)⟩

end Coherent

/-! ## Runs as calls to the store -/

section Calls

variable {sight : Files.Sight} {dir : Path} {found : List Migration}

/-- A plan asks for the rows alone. -/
theorem onStore_plan (seen : Directory.seen sight dir = .ok found) (limit? : Option Ident) :
    Program.onStore sight (plan dir limit?).run =
      (Program.onStore sight applied.run).bind fun result =>
        .done (result.map fun rows => (rows, needed rows limit? found)) := by
  rw [plan, Program.onStore_task]
  congr 1
  funext result
  cases result with
  | error failure => rfl
  | ok rows =>
      dsimp only
      rw [Program.onStore_task, Directory.onStore_scan, seen]
      rfl

theorem onStore_run (seen : Directory.seen sight dir = .ok found) (limit? : Option Ident) :
    Program.onStore sight (run dir limit?).run =
      (Program.onStore sight applied.run).bind fun result =>
        match result with
        | .ok rows =>
          Program.onStore sight (do
            applyEach (needed rows limit? found)
            pure ⟨(needed rows limit? found).map (·.id), rows.length⟩ : Task Failure Outcome).run
        | .error failure => .done (.error failure) := by
  rw [run, Program.onStore_task, onStore_plan seen, Program.bind_assoc]
  congr 1
  funext result
  cases result <;> rfl

end Calls

/-! ## The start -/

/-- What a session of its own is about, and what it sees of the files. -/
inductive Job where
  | run (dir : Path) (limit? : Option Ident)
  | apply (m : Migration)

namespace Job

/-- A run ends with its outcome, a single migration without one. -/
def task : Job → Task Failure (Option Outcome)
  | run dir limit? => do
    let outcome ← Apply.run dir limit?
    pure (some outcome)
  | apply m => do
    Apply.apply m
    pure none

def Concerns (sight : Files.Sight) : Job → Migration → Prop
  | run dir _, m => ∃ ms, Directory.seen sight dir = .ok ms ∧ m ∈ ms
  | apply own, m => m = own

/-- Whatever rows a job finds, it takes its migrations in turn. -/
def TakesInTurn (due : List Ident → Migration → Prop) (sight : Files.Sight) : Job → Prop
  | run dir limit? => ∀ ms, Directory.seen sight dir = .ok ms → ∀ rows : List LedgerRow,
    InTurn due (rows.map (·.id)) (needed rows limit? ms)
  | apply m => Transactional m → due [] m

def session (job : Job) (sight : Files.Sight) : Session (Except Failure (Option Outcome)) :=
  ⟨Program.onStore sight job.task.run, []⟩

/-- What is left of a run that has read the rows. -/
theorem session_run {sight : Files.Sight} {dir : Path} {found : List Migration}
    (seen : Directory.seen sight dir = .ok found) (limit? : Option Ident) :
    ∃ next, (Job.run dir limit?).session sight = ⟨.ask .applied next, []⟩ ∧
      ∀ rows, next (.ok rows) = Program.onStore sight (do
        applyEach (needed rows limit? found)
        pure (some ⟨(needed rows limit? found).map (·.id), rows.length⟩) :
          Task Failure (Option Outcome)).run := by
  have htask : (Job.run dir limit?).task = Apply.run dir limit? >>= fun outcome =>
    pure (some outcome) := rfl
  rw [Job.session, htask, Program.onStore_task, onStore_run seen]
  refine ⟨_, rfl, fun rows => ?_⟩
  refine Eq.trans (Program.onStore_task _ _).symm ?_
  rw [bind_assoc]
  rfl

theorem meets {job : Job} {sight : Files.Sight} (play : ∀ m, job.Concerns sight m → plays m)
    (turn : job.TakesInTurn due sight) :
    Program.Meets (around plays due) (job.session sight).rest (Ended plays) .fresh := by
  refine (Program.meets_onStore _ _ _).mpr ?_
  cases job with
  | run dir limit? =>
      rw [task, Task.meets_bind]
      have hplay : ∀ ms, Directory.seen sight dir = .ok ms → ∀ m ∈ ms, plays m :=
        fun ms hms m hm => play m ⟨ms, hms, hm⟩
      refine (meets_run hplay turn).mono ?_
      rintro result st ⟨known, hst⟩
      cases result with
      | ok => cases hst; exact ⟨rfl, nofun⟩
      | error failure => exact Ended.of_error hst
  | apply m =>
      rw [task, Task.meets_bind]
      refine (meets_apply (play m rfl) turn).mono ?_
      intro result st hst
      cases result with
      | ok => cases hst; exact ⟨rfl, nofun⟩
      | error failure => exact Ended.of_error hst

end Job

def opening (s : σ) (clients : List (Files.Sight × Job)) :
    Scene σ (Except Failure (Option Outcome)) :=
  ⟨s, clients.map fun client => client.2.session client.1⟩

theorem Coherent.opening {s : σ} (possible : engine.possible s)
    (idle : ∀ tx, (engine.view s).opened tx = none) {clients : List (Files.Sight × Job)}
    (play : ∀ client ∈ clients, ∀ m, client.2.Concerns client.1 m → plays m)
    (turn : ∀ client ∈ clients, client.2.TakesInTurn due client.1) :
    Coherent engine plays due (opening s clients) := by
  refine ⟨possible, ?_, ?_, ?_⟩
  · rintro tx id ⟨work, hwork, _⟩
    cases (idle tx).symm.trans hwork
  · intro session hsession
    obtain ⟨client, hclient, rfl⟩ := List.mem_map.mp hsession
    exact ⟨.fresh, Job.meets (play client hclient) (turn client hclient), rfl, nofun, nofun⟩
  · have hheld : (Apply.opening s clients).sessions.flatMap (·.held) = [] := by
      refine List.flatMap_eq_nil_iff.mpr ?_
      intro session hsession
      obtain ⟨client, _, rfl⟩ := List.mem_map.mp hsession
      rfl
    rw [hheld]
    exact List.nodup_nil

end SchemaLedger.Apply
