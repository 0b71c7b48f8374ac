import SchemaLedger.Proofs.Apply.Standing
import SchemaLedger.Proofs.Listing
import SchemaLedger.Proofs.Store.Memory

/-! # What a run makes of the store

A run that has a store to itself brings it from one outlook to the next, migration by migration. If
it fails, it has done so for a beginning of what it was to apply. -/

namespace SchemaLedger

/-- The answers of a store are among those of an engine. -/
def Setting.BackedBy {σ : Type} (setting : Setting σ) (engine : Store.Engine σ) : Prop :=
  ∀ call s answer s', setting.store call s = (answer, s') → engine.answers call s answer s'

namespace Apply

open Store (Claim Effect Engine Outlook Tx Work)

variable {effect : Effect} {o o' : Outlook} {m : Migration} {ms : List Migration}

/-! ## Outlooks -/

/-- What applying a migration makes of what lasts. -/
structure Advances (effect : Effect) (o : Outlook) (m : Migration) (o' : Outlook) : Prop where
  ledger : effectOf effect m (o.ledger ++ (lastingOf m).claims) o'.ledger
  committed : o'.committed = o.committed ++ [lastingOf m]

/-- What applying migrations one after the other makes of what lasts. -/
inductive AdvancesAll (effect : Effect) : Outlook → List Migration → Outlook → Prop
  | nil (o : Outlook) : AdvancesAll effect o [] o
  | cons {o between o' : Outlook} {m : Migration} {ms : List Migration}
    (first : Advances effect o m between) (rest : AdvancesAll effect between ms o') :
    AdvancesAll effect o (m :: ms) o'

theorem advances_iff_of_inside (inside : Transactional m) : Advances effect o m o' ↔
    effect.inside m.content (o.ledger ++ [claimOf m]) o'.ledger ∧
      o'.committed = o.committed ++ [unitOf m] := by
  have hlasting : lastingOf m = unitOf m := if_pos inside
  constructor
  · rintro ⟨hledger, hcommitted⟩
    rw [hlasting] at hledger hcommitted
    rw [effectOf, if_pos inside] at hledger
    exact ⟨hledger, hcommitted⟩
  · rintro ⟨hledger, hcommitted⟩
    refine ⟨?_, hlasting ▸ hcommitted⟩
    rw [effectOf, if_pos inside, hlasting]
    exact hledger

theorem advances_iff_of_alone (alone : ¬ Transactional m) : Advances effect o m o' ↔
    effect.alone m.content o.ledger o'.ledger ∧
      o'.committed = o.committed ++ [.direct m.content] := by
  have hlasting : lastingOf m = .direct m.content := if_neg alone
  have hclaims : o.ledger ++ (lastingOf m).claims = o.ledger := by
    rw [hlasting]
    exact List.append_nil _
  constructor
  · rintro ⟨hledger, hcommitted⟩
    rw [hclaims, effectOf, if_neg alone] at hledger
    exact ⟨hledger, hlasting ▸ hcommitted⟩
  · rintro ⟨hledger, hcommitted⟩
    refine ⟨?_, hlasting ▸ hcommitted⟩
    rw [hclaims, effectOf, if_neg alone]
    exact hledger

/-! ### Where no rows are deleted -/

section Keeps

theorem Advances.subset (h : Advances effect o m o') (keeps : Effect.Keeps (effectOf effect m)) :
    o.ledger ⊆ o'.ledger :=
  fun _ hclaim => keeps _ _ h.ledger (List.mem_append_left _ hclaim)

theorem Advances.recorded (h : Advances effect o m o')
    (keeps : Effect.Keeps (effectOf effect m)) (inside : Transactional m) : o'.Recorded m.id := by
  have hclaim : claimOf m ∈ (lastingOf m).claims := by
    rw [lastingOf, if_pos inside]
    exact List.mem_singleton_self _
  exact ⟨claimOf m, keeps _ _ h.ledger (List.mem_append_right _ hclaim), rfl⟩

variable (h : AdvancesAll effect o ms o') (keeps : ∀ m ∈ ms, Effect.Keeps (effectOf effect m))

include h keeps

theorem AdvancesAll.subset : o.ledger ⊆ o'.ledger := by
  induction h with
  | nil o => exact List.Subset.refl _
  | @cons o between o' m ms first rest ih =>
      exact List.Subset.trans (first.subset (keeps m List.mem_cons_self))
        (ih fun k hk => keeps k (List.mem_cons_of_mem m hk))

theorem AdvancesAll.recorded : ∀ m ∈ ms, Transactional m → o'.Recorded m.id := by
  induction h with
  | nil o => exact nofun
  | @cons o between o' m ms first rest ih =>
      have hrest : ∀ k ∈ ms, Effect.Keeps (effectOf effect k) :=
        fun k hk => keeps k (List.mem_cons_of_mem m hk)
      intro k hk inside
      rcases List.mem_cons.mp hk with rfl | hk
      · exact (first.recorded (keeps _ List.mem_cons_self) inside).mono (rest.subset hrest)
      · exact ih hrest k hk inside

end Keeps

/-- Where statements leave the ledger alone, it gets the row of each migration. -/
theorem AdvancesAll.ledger_eq (h : AdvancesAll effect o ms o')
    (inside : ∀ m ∈ ms, Transactional m) (leaves : ∀ m ∈ ms, Effect.Leaves (effect.inside m.content)) :
    o'.ledger = o.ledger ++ ms.map claimOf := by
  induction h with
  | nil o => simp
  | @cons o between o' m ms first rest ih =>
      have hfirst := ((advances_iff_of_inside (inside m List.mem_cons_self)).mp first).1
      rw [ih (fun k hk => inside k (List.mem_cons_of_mem m hk))
        (fun k hk => leaves k (List.mem_cons_of_mem m hk)),
        leaves m List.mem_cons_self _ _ hfirst, List.map_cons, List.append_assoc]
      rfl

/-! ## Runs -/

section Meets

variable {σ : Type} {setting : Setting σ} {listing : Listing} {site after : Site σ}
variable {engine : Engine σ} (honours : engine.Honours effect) (backed : setting.BackedBy engine)

/-- A migration has been applied, or the store is as it was. -/
def Advanced (engine : Engine σ) (effect : Effect) (o : Outlook) (m : Migration) :
    Except Failure Unit → σ → Prop
  | .ok (), s => ∃ o', Advances effect o m o' ∧ engine.Amid o' none s
  | .error _, s => engine.Amid o none s

/-- Migrations have been applied, up to one of them if that failed. -/
def AdvancedAll (engine : Engine σ) (effect : Effect) (o : Outlook) (ms : List Migration) :
    Except Failure Unit → σ → Prop
  | .ok (), s => ∃ o', AdvancesAll effect o ms o' ∧ engine.Amid o' none s
  | .error _, s => ∃ done m rest o', ms = done ++ m :: rest ∧ AdvancesAll effect o done o' ∧
      engine.Amid o' none s

include honours backed

theorem meets_desist {tx : Tx} {work : Work} {failure : Failure}
    (amid : engine.Amid o (some (tx, work)) site.store) :
    Program.Meets (setting.surroundings listing) (abort tx m failure).run
      (fun result after => Advanced engine effect o m result after.store) site := by
  rw [abort, Task.meets_bind]
  refine Setting.meets_asking fun answer after hanswer _ => ?_
  have hafter := amid.rollback honours (.answered (backed _ _ _ _ hanswer))
  rw [Task.Then]
  cases answer with
  | ok => exact hafter
  | error error =>
      rw [Task.meets_bind]
      exact Setting.meets_noting hafter

theorem meets_advanceDirectly (alone : ¬ Transactional m) (amid : engine.Amid o none site.store) :
    Program.Meets (setting.surroundings listing) (applyDirectly m).run
      (fun result after => Advanced engine effect o m result after.store) site := by
  rw [applyDirectly, Task.meets_bind]
  refine Setting.meets_noting ?_
  rw [Task.Then, Task.meets_bind]
  refine Setting.meets_asking fun answer after hanswer _ => ?_
  have hafter := amid.execute honours (.answered (backed _ _ _ _ hanswer))
  rw [Task.Then, Task.meets_ofExcept]
  cases answer with
  | error error => exact hafter
  | ok =>
      obtain ⟨rows, hrows, hamid⟩ := hafter
      exact ⟨_, (advances_iff_of_alone alone).mpr ⟨hrows, rfl⟩, hamid⟩

theorem meets_advanceClaimed (inside : Transactional m) (amid : engine.Amid o none site.store) :
    Program.Meets (setting.surroundings listing) (applyClaimed m).run
      (fun result after => Advanced engine effect o m result after.store) site := by
  rw [applyClaimed, Task.meets_bind]
  refine Setting.meets_asking fun begun site₁ hbegun _ => ?_
  have hbegun := amid.begin honours (.answered (backed _ _ _ _ hbegun))
  rw [Task.Then]
  cases begun with
  | error error => exact hbegun
  | ok tx =>
      rw [Task.meets_ofExcept_ok, Task.meets_bind]
      refine Setting.meets_asking fun claimed site₂ hclaimed _ => ?_
      have hclaimed := hbegun.claim honours (.answered (backed _ _ _ _ hclaimed))
      rw [Task.Then]
      cases claimed with
      | error error => exact meets_desist honours backed hclaimed
      | ok =>
          refine (Task.meets_bind _ _ _ _ _).mpr ?_
          refine Setting.meets_asking fun performed site₃ hperformed _ => ?_
          have hperformed := hclaimed.2.executeIn honours (.answered (backed _ _ _ _ hperformed))
          rw [Task.Then]
          cases performed with
          | error error => exact meets_desist honours backed hperformed
          | ok =>
              refine (Task.meets_bind _ _ _ _ _).mpr ?_
              refine Setting.meets_asking fun committed after hcommitted _ => ?_
              have hcommitted := hperformed.commit honours (.answered (backed _ _ _ _ hcommitted))
              rw [Task.Then, Task.meets_ofExcept]
              cases committed with
              | error error => exact hcommitted
              | ok =>
                  obtain ⟨rows, ⟨between, hrows, hend⟩, hamid⟩ := hcommitted
                  cases hend
                  have hrows : effect.inside m.content (o.ledger ++ [claimOf m]) rows := hrows
                  exact ⟨_, (advances_iff_of_inside inside).mpr ⟨hrows, rfl⟩, hamid⟩

theorem meets_advance (amid : engine.Amid o none site.store) :
    Program.Meets (setting.surroundings listing) (apply m).run
      (fun result after => Advanced engine effect o m result after.store) site := by
  rw [apply]
  by_cases inside : Transactional m
  · rw [if_neg (by simpa [Transactional] using inside)]
    exact meets_advanceClaimed honours backed inside amid
  · rw [if_pos (by simpa [Transactional] using inside)]
    exact meets_advanceDirectly honours backed inside amid

theorem meets_advanceEach (ms : List Migration) (amid : engine.Amid o none site.store) :
    Program.Meets (setting.surroundings listing) (applyEach ms).run
      (fun result after => AdvancedAll engine effect o ms result after.store) site := by
  induction ms generalizing o site with
  | nil => exact ⟨o, .nil o, amid⟩
  | cons m rest ih =>
      rw [applyEach, Task.meets_bind]
      refine Setting.meets_noting ?_
      rw [Task.Then, Task.meets_bind]
      refine (meets_advance honours backed amid).mono ?_
      intro result mid hmid
      cases result with
      | error failure => exact ⟨[], m, rest, o, rfl, .nil o, hmid⟩
      | ok =>
          obtain ⟨between, hfirst, hamid⟩ := hmid
          rw [Task.Then, Task.meets_bind]
          refine Setting.meets_noting ?_
          refine (ih hamid).mono ?_
          intro result after hafter
          cases result with
          | ok =>
              obtain ⟨o', hrest, hlast⟩ := hafter
              exact ⟨o', .cons hfirst hrest, hlast⟩
          | error failure =>
              obtain ⟨done, k, later, o', rfl, hdone, hlast⟩ := hafter
              exact ⟨m :: done, k, later, o', rfl, .cons hfirst hdone, hlast⟩

theorem advanced_of_run (amid : engine.Amid o none site.store) {result : Except Failure Unit}
    (h : Program.run (setting.handler listing) (apply m).run site = (result, after)) :
    Advanced engine effect o m result after.store := by
  have hmeets : Program.Meets (setting.surroundings listing) (apply m).run _ site :=
    meets_advance honours backed amid
  have hadvanced := Setting.run_of_meets hmeets
  rwa [h] at hadvanced

theorem advancedAll_of_run (amid : engine.Amid o none site.store) {result : Except Failure Unit}
    (h : Program.run (setting.handler listing) (applyEach ms).run site = (result, after)) :
    AdvancedAll engine effect o ms result after.store := by
  have hmeets : Program.Meets (setting.surroundings listing) (applyEach ms).run _ site :=
    meets_advanceEach honours backed ms amid
  have hadvanced := Setting.run_of_meets hmeets
  rwa [h] at hadvanced

theorem amid_told (amid : engine.Amid o none site.store) :
    engine.Amid o none (setting.told .applied site).store ∧
      ∀ rows, (setting.store .applied site.store).1 = .ok rows →
        (rows.map fun row => (⟨row.id, row.slug⟩ : Claim)).Perm o.ledger :=
  amid.applied honours (.answered (backed _ _ _ _ rfl))

end Meets

section Run

variable {σ : Type} {setting : Setting σ} {listing : Listing} {site after : Site σ} {dir : Path}
variable {limit? : Option Ident} {found : List Migration}

theorem followedEach_of_run {ms : List Migration} {result : Except Failure Unit}
    (h : Program.run (setting.handler listing) (applyEach ms).run site = (result, after)) :
    ∃ new, site.Grows after new ∧ FollowedEach ms result new := by
  have hfollowed := Setting.run_of_meets (@meets_followEach σ setting listing site ms)
  rwa [h] at hfollowed

theorem run_planned {rows : List LedgerRow}
    (read : rowsOf (setting.store .applied site.store).1 = .ok rows)
    (seen : Directory.seen (listing.sight site.tree) dir = .ok found)
    {result : Except Failure Unit}
    (each : Program.run (setting.handler listing) (applyEach (needed rows limit? found)).run
      (setting.told .applied site) = (result, after)) :
    Program.run (setting.handler listing) (run dir limit?).run site =
      (result.map fun _ => ⟨(needed rows limit? found).map (·.id), rows.length⟩, after) := by
  rw [run, Task.run_bind, run_plan, read, seen]
  dsimp only [Except.bind]
  rw [Task.run_bind, each]
  cases result <;> rfl

/-- A run that succeeds has applied what it needed. -/
theorem planned_of_run (seen : Directory.seen (listing.sight site.tree) dir = .ok found)
    {outcome : Outcome}
    (h : Program.run (setting.handler listing) (run dir limit?).run site = (.ok outcome, after)) :
    ∃ rows, rowsOf (setting.store .applied site.store).1 = .ok rows ∧
      outcome = ⟨(needed rows limit? found).map (·.id), rows.length⟩ ∧
      Program.run (setting.handler listing) (applyEach (needed rows limit? found)).run
        (setting.told .applied site) = (.ok (), after) := by
  cases hread : rowsOf (setting.store .applied site.store).1 with
  | error failure =>
      rw [run, Task.run_bind, run_plan, hread] at h
      cases h
  | ok rows =>
      rcases heach : Program.run (setting.handler listing)
        (applyEach (needed rows limit? found)).run (setting.told .applied site) with ⟨result, last⟩
      rw [run_planned hread seen heach] at h
      cases result with
      | error failure => cases h
      | ok =>
          cases h
          exact ⟨rows, rfl, rfl, heach⟩

end Run

/-! ## Migrations that are run by themselves -/

section Alone

variable {m : Migration} {ms : List Migration}

theorem script_of_alone (alone : ¬ Transactional m) (tx : Tx) :
    script m tx = [⟨.store (.execute m.content), .ok ()⟩] :=
  if_pos (by simpa [Transactional] using alone)

theorem scripts_of_alone (alone : ∀ m ∈ ms, ¬ Transactional m) {txs : List Tx}
    (opened : txs.length = ms.length) :
    scripts ms txs = ms.map fun m => ⟨.store (.execute m.content), .ok ()⟩ := by
  induction ms generalizing txs with
  | nil => simp [scripts]
  | cons m rest ih =>
      cases txs with
      | nil => cases opened
      | cons tx txs =>
          have hrest := ih (fun k hk => alone k (List.mem_cons_of_mem m hk)) (Nat.succ.inj opened)
          rw [scripts] at hrest ⊢
          rw [List.zipWith_cons_cons, List.flatten_cons, hrest,
            script_of_alone (alone m List.mem_cons_self), List.map_cons]
          rfl

theorem Followed.call_of_alone (alone : ¬ Transactional m) {result : Except Failure Unit}
    {new : List Exchange} (h : Followed m result new) :
    new.map (·.call) = [.store (.execute m.content)] := by
  cases h with
  | whole tx =>
      rw [script_of_alone alone]
      rfl
  | @cut tx done rest after call answer error follows closes =>
      -- The script has one call only, and nothing is to be done once it has failed.
      rw [script_of_alone alone] at follows
      obtain ⟨rfl, hcall, rfl⟩ : done = [] ∧ call = .execute m.content ∧ rest = [] := by
        cases done with
        | nil =>
            cases follows
            exact ⟨rfl, rfl, rfl⟩
        | cons x done =>
            have hrest := congrArg List.length follows
            simp at hrest
      subst hcall
      rw [List.nil_append, List.map_cons, closes]
      rfl

theorem FollowedEach.calls_of_alone (alone : ∀ m ∈ ms, ¬ Transactional m)
    {result : Except Failure Unit} {new : List Exchange} (h : FollowedEach ms result new) :
    (new.map (·.call) <+: ms.map fun m => .store (.execute m.content)) ∧
      (result = .ok () → new.map (·.call) = ms.map fun m => .store (.execute m.content)) := by
  cases h with
  | whole txs opened =>
      rw [scripts_of_alone alone opened, List.map_map]
      exact ⟨List.prefix_refl _, fun _ => rfl⟩
  | @cut done txs later m failure last split opened followed =>
      subst split
      have hdone : ∀ k ∈ done, ¬ Transactional k := fun k hk => alone k (by simp [hk])
      rw [List.map_append, scripts_of_alone hdone opened, List.map_map,
        followed.call_of_alone (alone m (by simp)), List.map_append, List.map_cons]
      refine ⟨⟨later.map fun m => .store (.execute m.content), ?_⟩, nofun⟩
      rw [List.append_assoc]
      rfl

theorem FollowedEach.executed {new : List Exchange} (h : FollowedEach ms (.ok ()) new) (hm : m ∈ ms)
    (alone : ¬ Transactional m) : (⟨.store (.execute m.content), .ok ()⟩ : Exchange) ∈ new := by
  cases h with
  | whole txs opened =>
      obtain ⟨i, hi, rfl⟩ := List.getElem_of_mem hm
      have htx : i < txs.length := opened ▸ hi
      refine List.mem_flatten.mpr ⟨script ms[i] txs[i], ?_, ?_⟩
      · exact List.mem_iff_getElem.mpr ⟨i, by simp [hi, opened], by simp⟩
      · rw [script_of_alone alone]
        exact List.mem_singleton_self _

end Alone

/-! ## The store in memory -/

theorem memory_keeps (m : Migration) : Effect.Keeps (effectOf Store.Memory.effect m) := by
  rw [effectOf]
  split
  · exact (Store.Memory.leaves_inside m.content).keeps
  · by_cases hsql : m.content = Bootstrap.sql
    · intro before after heffect
      simp only [Store.Memory.effect, if_pos hsql] at heffect
      rw [heffect.1]
      exact List.nil_subset _
    · exact (Store.Memory.leaves_alone hsql).keeps

end Apply

def Setting.inMemory : Setting Store.Memory :=
  { Setting.ordinary with store := Store.Memory.answer }

theorem Setting.inMemory_backed : inMemory.BackedBy Store.Memory.engine := fun _ _ _ _ h => h

end SchemaLedger
