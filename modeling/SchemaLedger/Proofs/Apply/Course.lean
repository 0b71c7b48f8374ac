import SchemaLedger.Proofs.Apply.Plan
import SchemaLedger.Proofs.Site

/-! # The course of a run

A run reads the ledger, scans the directory and then follows the script of one migration after the
other. It stops at the first call that fails; one that fails inside a transaction is followed by a
rollback, whatever becomes of that. -/

namespace SchemaLedger

/-- The store has refused a call. That it has no ledger yet is no failure of reading it. -/
inductive Exchange.Fails : Exchange → Prop
  | intro (call : Store.Call) (error : StoreError)
    (counts : call = .applied → error ≠ .tableMissing) : Fails ⟨.store call, call.failed error⟩

namespace Apply

open Store (Call Tx)

/-! ## Scripts -/

/-- The exchanges by which a migration is applied, in a transaction unless it is run by itself. -/
def script (m : Migration) (tx : Tx) : List Exchange :=
  if Directive.skipsTransaction m.content then [⟨.store (.execute m.content), .ok ()⟩]
  else [⟨.store .begin, .ok tx⟩, ⟨.store (.claim tx m.id m.slug), .ok ()⟩,
    ⟨.store (.executeIn tx m.content), .ok ()⟩, ⟨.store (.commit tx), .ok ()⟩]

def closing : Call → List Call
  | .claim tx .. | .executeIn tx _ => [.rollback tx]
  | _ => []

def blame (m : Migration) (call : Call) (error : StoreError) : Failure :=
  match call with
  | .claim .. => claimFailure m error
  | _ => .applyFailure m.name error

/-- The script of a migration is followed to its end, or to a call that fails. -/
inductive Followed (m : Migration) : Except Failure Unit → List Exchange → Prop
  | whole (tx : Tx) : Followed m (.ok ()) (script m tx)
  | cut {tx : Tx} {done rest after : List Exchange} {call : Call} {answer : call.Answer}
      (error : StoreError) (follows : script m tx = done ++ ⟨.store call, answer⟩ :: rest)
      (closes : after.map (·.call) = (closing call).map .store) :
    Followed m (.error (blame m call error)) (done ++ ⟨.store call, call.failed error⟩ :: after)

theorem Followed.failing {m : Migration} {tx : Tx} {result : Except Failure Unit}
    {new rest : List Exchange} {error : StoreError} (done : List Exchange) (call : Call)
    {answer : call.Answer} (after : List Exchange)
    (follows : script m tx = done ++ ⟨.store call, answer⟩ :: rest)
    (closes : after.map (·.call) = (closing call).map .store)
    (hresult : result = .error (blame m call error))
    (hnew : new = done ++ ⟨.store call, call.failed error⟩ :: after) : Followed m result new := by
  rw [hresult, hnew]
  exact .cut error follows closes

def scripts (ms : List Migration) (txs : List Tx) : List Exchange :=
  (List.zipWith script ms txs).flatten

section Meets

variable {σ : Type} {setting : Setting σ} {listing : Listing} {site : Site σ} {m : Migration}

theorem meets_rollingBack {tx : Tx} {failure : Failure} {ends : Except Failure Unit → Site σ → Prop}
    (h : ∀ answer after, site.Grows after [⟨.store (.rollback tx), answer⟩] →
      ends (.error failure) after) :
    Program.Meets (setting.surroundings listing) (abort tx m failure).run ends site := by
  rw [abort, Task.meets_bind]
  refine Setting.meets_telling fun answer after hafter => ?_
  rw [Task.Then]
  cases answer with
  | ok => exact h _ after hafter
  | error error =>
      rw [Task.meets_bind]
      exact Setting.meets_noting (h _ after hafter)

theorem meets_followDirectly (direct : Directive.skipsTransaction m.content = true) :
    Program.Meets (setting.surroundings listing) (applyDirectly m).run
      (fun result after => ∃ new, site.Grows after new ∧ Followed m result new) site := by
  have hscript : script m ⟨0⟩ = [⟨.store (.execute m.content), .ok ()⟩] := if_pos direct
  rw [applyDirectly, Task.meets_bind]
  refine Setting.meets_noting ?_
  rw [Task.Then, Task.meets_bind]
  refine Setting.meets_telling fun answer after hafter => ?_
  rw [Task.Then, Task.meets_ofExcept]
  refine ⟨_, hafter, ?_⟩
  cases answer with
  | ok =>
      have hwhole := Followed.whole (m := m) ⟨0⟩
      rwa [hscript] at hwhole
  | error error => exact .failing [] (.execute m.content) [] hscript rfl rfl rfl

theorem meets_followClaimed (inside : ¬ Directive.skipsTransaction m.content = true) :
    Program.Meets (setting.surroundings listing) (applyClaimed m).run
      (fun result after => ∃ new, site.Grows after new ∧ Followed m result new) site := by
  have hscript : ∀ tx, script m tx = [⟨.store .begin, .ok tx⟩,
      ⟨.store (.claim tx m.id m.slug), .ok ()⟩, ⟨.store (.executeIn tx m.content), .ok ()⟩,
      ⟨.store (.commit tx), .ok ()⟩] := fun tx => if_neg inside
  rw [applyClaimed, Task.meets_bind]
  refine Setting.meets_telling fun begun site₁ hbegun => ?_
  rw [Task.Then]
  cases begun with
  | error error => exact ⟨_, hbegun, .failing [] .begin [] (hscript ⟨0⟩) rfl rfl rfl⟩
  | ok tx =>
      rw [Task.meets_ofExcept_ok, Task.meets_bind]
      refine Setting.meets_telling fun claimed site₂ hclaimed => ?_
      have hclaimed := hbegun.trans hclaimed
      rw [Task.Then]
      cases claimed with
      | error error =>
          refine meets_rollingBack fun ended after hended => ?_
          exact ⟨_, hclaimed.trans hended, .failing [_] (.claim tx m.id m.slug) [_] (hscript tx) rfl
            rfl rfl⟩
      | ok =>
          refine (Task.meets_bind _ _ _ _ _).mpr ?_
          refine Setting.meets_telling fun performed site₃ hperformed => ?_
          have hperformed := hclaimed.trans hperformed
          rw [Task.Then]
          cases performed with
          | error error =>
              refine meets_rollingBack fun ended after hended => ?_
              exact ⟨_, hperformed.trans hended, .failing [_, _] (.executeIn tx m.content) [_]
                (hscript tx) rfl rfl rfl⟩
          | ok =>
              refine (Task.meets_bind _ _ _ _ _).mpr ?_
              refine Setting.meets_telling fun committed after hcommitted => ?_
              have hcommitted := hperformed.trans hcommitted
              rw [Task.Then, Task.meets_ofExcept]
              refine ⟨_, hcommitted, ?_⟩
              cases committed with
              | ok =>
                  have hwhole := Followed.whole (m := m) tx
                  rwa [hscript] at hwhole
              | error error =>
                  exact .failing [_, _, _] (.commit tx) [] (hscript tx) rfl rfl rfl

theorem meets_follow (m : Migration) :
    Program.Meets (setting.surroundings listing) (apply m).run
      (fun result after => ∃ new, site.Grows after new ∧ Followed m result new) site := by
  rw [apply]
  split
  · next direct => exact meets_followDirectly direct
  · next inside => exact meets_followClaimed inside

/-- The scripts of migrations are followed one after the other, until one is cut. -/
inductive FollowedEach (ms : List Migration) : Except Failure Unit → List Exchange → Prop
  | whole (txs : List Tx) (opened : txs.length = ms.length) :
    FollowedEach ms (.ok ()) (scripts ms txs)
  | cut (done : List Migration) (txs : List Tx) {later : List Migration} {m : Migration}
      {failure : Failure} {last : List Exchange} (split : ms = done ++ m :: later)
      (opened : txs.length = done.length) (followed : Followed m (.error failure) last) :
    FollowedEach ms (.error failure) (scripts done txs ++ last)

theorem FollowedEach.cons {ms : List Migration} {result : Except Failure Unit}
    {new : List Exchange} (h : FollowedEach ms result new) (m : Migration) (tx : Tx) :
    FollowedEach (m :: ms) result (script m tx ++ new) := by
  cases h with
  | whole txs opened => exact .whole (tx :: txs) (congrArg (· + 1) opened)
  | @cut done txs later k failure last split opened followed =>
      have hcut : FollowedEach (m :: ms) (.error failure) (scripts (m :: done) (tx :: txs) ++ last) :=
        .cut _ _ (by rw [split]; rfl) (congrArg (· + 1) opened) followed
      rwa [scripts, List.zipWith_cons_cons, List.flatten_cons, List.append_assoc] at hcut

theorem meets_followEach (ms : List Migration) :
    Program.Meets (setting.surroundings listing) (applyEach ms).run
      (fun result after => ∃ new, site.Grows after new ∧ FollowedEach ms result new) site := by
  induction ms generalizing site with
  | nil => exact ⟨[], .refl site, .whole [] rfl⟩
  | cons m rest ih =>
      rw [applyEach, Task.meets_bind]
      refine Setting.meets_noting ?_
      rw [Task.Then, Task.meets_bind]
      refine (meets_follow m).mono ?_
      rintro result mid ⟨first, hfirst, followed⟩
      cases followed with
      | cut error follows closes =>
          exact ⟨_, hfirst, .cut [] [] rfl rfl (.cut error follows closes)⟩
      | whole tx =>
          rw [Task.Then, Task.meets_bind]
          refine Setting.meets_noting ?_
          refine ih.mono ?_
          rintro result after ⟨rest, hrest, hfollowed⟩
          exact ⟨_, hfirst.trans hrest, hfollowed.cons m tx⟩

end Meets

/-! ## Plans -/

/-- What a reading of the ledger comes to. A ledger that does not exist yet has no rows. -/
def rowsOf : Except StoreError (List LedgerRow) → Except Failure (List LedgerRow)
  | .ok rows => .ok rows
  | .error .tableMissing => .ok []
  | .error error => .error (.ledgerUnavailable error)

section Plan

variable {σ : Type} (setting : Setting σ) (listing : Listing) (site : Site σ)

theorem run_applied : Program.run (setting.handler listing) applied.run site =
    (rowsOf (setting.store .applied site.store).1, setting.told .applied site) := by
  rw [applied, Task.run_bind, Task.run_store]
  dsimp only [Setting.handler_store]
  cases (setting.store .applied site.store).1 with
  | ok rows => rfl
  | error error => cases error <;> rfl

theorem run_plan (dir : Path) (limit? : Option Ident) :
    Program.run (setting.handler listing) (plan dir limit?).run site =
      ((rowsOf (setting.store .applied site.store).1).bind fun rows =>
        (Directory.seen (listing.sight site.tree) dir).bind fun ms =>
          .ok (rows, needed rows limit? ms), setting.told .applied site) := by
  rw [plan, Task.run_bind, run_applied]
  cases rowsOf (setting.store .applied site.store).1 with
  | error failure => rfl
  | ok rows =>
      dsimp only
      rw [Task.run_bind, Setting.run_scan, Setting.told_tree]
      cases Directory.seen (listing.sight site.tree) dir with
      | error failure => rfl
      | ok ms => rfl

theorem run_pending (dir : Path) (limit? : Option Ident) :
    (Program.run (setting.handler listing) (pending dir limit?).run site).1 =
      (rowsOf (setting.store .applied site.store).1).bind fun rows =>
        (Directory.seen (listing.sight site.tree) dir).map (needed rows limit?) := by
  rw [pending, Task.run_bind, run_plan]
  cases rowsOf (setting.store .applied site.store).1 with
  | error failure => rfl
  | ok rows => cases Directory.seen (listing.sight site.tree) dir <;> rfl

end Plan

/-! ## Failures -/

theorem script_passes {m : Migration} {tx : Tx} : ∀ x ∈ script m tx, ¬ x.Fails := by
  rw [script]
  split
  · simp only [List.mem_singleton, forall_eq]
    exact nofun
  · simp only [List.mem_cons, List.not_mem_nil, or_false, forall_eq_or_imp, forall_eq]
    exact ⟨nofun, nofun, nofun, nofun⟩

theorem unread_of_script {m : Migration} {tx : Tx} {call : Call} {answer : call.Answer}
    (h : ⟨.store call, answer⟩ ∈ script m tx) : call ≠ .applied := by
  rintro rfl
  rw [script] at h
  split at h <;> simp at h

theorem mem_of_follows {m : Migration} {tx : Tx} {done rest : List Exchange} {x : Exchange}
    (follows : script m tx = done ++ x :: rest) : x ∈ script m tx := by
  rw [follows]
  exact List.mem_append_right _ List.mem_cons_self

theorem mem_scripts {ms : List Migration} {txs : List Tx} {x : Exchange}
    (h : x ∈ scripts ms txs) : ∃ m tx, x ∈ script m tx := by
  induction ms generalizing txs with
  | nil => simp [scripts] at h
  | cons m rest ih =>
      cases txs with
      | nil => simp [scripts] at h
      | cons tx txs =>
          rcases List.mem_append.mp h with hx | hx
          · exact ⟨m, tx, hx⟩
          · exact ih hx

theorem scripts_pass {ms : List Migration} {txs : List Tx} : ∀ x ∈ scripts ms txs, ¬ x.Fails := by
  intro x hx
  obtain ⟨m, tx, hscript⟩ := mem_scripts hx
  exact script_passes x hscript

theorem Followed.exists_fails {m : Migration} {failure : Failure} {new : List Exchange}
    (h : Followed m (.error failure) new) : ∃ x ∈ new, x.Fails := by
  cases h with
  | @cut tx done rest after call answer error follows closes =>
      have hunread : call ≠ .applied := unread_of_script (mem_of_follows follows)
      exact ⟨_, List.mem_append_right _ List.mem_cons_self,
        .intro call error fun hread => absurd hread hunread⟩

theorem FollowedEach.ok_iff {ms : List Migration} {result : Except Failure Unit}
    {new : List Exchange} (h : FollowedEach ms result new) :
    (∃ value, result = .ok value) ↔ ∀ x ∈ new, ¬ x.Fails := by
  cases h with
  | whole txs _ => exact ⟨fun _ => scripts_pass, fun _ => ⟨_, rfl⟩⟩
  | cut done txs _ _ followed =>
      obtain ⟨x, hx, hfails⟩ := followed.exists_fails
      simp only [reduceCtorEq, exists_false, false_iff, not_forall, not_not]
      exact ⟨x, List.mem_append_right _ hx, hfails⟩

theorem rowsOf_eq_ok {answer : Except StoreError (List LedgerRow)} {rows : List LedgerRow} :
    rowsOf answer = .ok rows ↔ answer = .ok rows ∨ answer = .error .tableMissing ∧ rows = [] := by
  rcases answer with error | rows'
  · cases error <;> simp [rowsOf, eq_comm]
  · simp [rowsOf]

theorem rowsOf_eq_error {answer : Except StoreError (List LedgerRow)} {failure : Failure} :
    rowsOf answer = .error failure ↔
      ∃ error, error ≠ .tableMissing ∧ answer = .error error ∧ failure = .ledgerUnavailable error := by
  rcases answer with error | rows
  · cases error <;> simp [rowsOf, eq_comm]
  · simp [rowsOf]

theorem fails_of_rowsOf {answer : Except StoreError (List LedgerRow)} {failure : Failure}
    (h : rowsOf answer = .error failure) : Exchange.Fails ⟨.store .applied, answer⟩ := by
  obtain ⟨error, hknown, rfl, _⟩ := rowsOf_eq_error.mp h
  exact .intro .applied error fun _ => hknown

theorem passes_of_rowsOf {answer : Except StoreError (List LedgerRow)} {rows : List LedgerRow}
    (h : rowsOf answer = .ok rows) : ¬ Exchange.Fails ⟨.store .applied, answer⟩ := by
  intro hfails
  cases hfails with
  | intro _ error counts =>
      rcases rowsOf_eq_ok.mp h with hrows | ⟨hmissing, _⟩
      · cases hrows
      · exact counts rfl (Except.error.inj hmissing)

/-! ## Runs -/

section Run

variable {σ : Type}

/-- The course of a run: the exchanges that it makes and how it ends. -/
inductive Course (setting : Setting σ) (listing : Listing) (site : Site σ) (dir : Path)
    (limit? : Option Ident) : Except Failure Outcome → List Exchange → Prop
  | unread {answer : Except StoreError (List LedgerRow)} {failure : Failure}
      (read : rowsOf answer = .error failure) :
    Course setting listing site dir limit? (.error failure) [⟨.store .applied, answer⟩]
  | unscanned {answer : Except StoreError (List LedgerRow)} {rows : List LedgerRow}
      {failure : Failure} (read : rowsOf answer = .ok rows)
      (unseen : Directory.seen (listing.sight site.tree) dir = .error failure) :
    Course setting listing site dir limit? (.error failure) [⟨.store .applied, answer⟩]
  | planned {answer : Except StoreError (List LedgerRow)} {rows : List LedgerRow}
      {found ms : List Migration} {result : Except Failure Unit} {new : List Exchange}
      (read : rowsOf answer = .ok rows)
      (scanned : Directory.seen (listing.sight site.tree) dir = .ok found)
      (pending : (Program.run (setting.handler listing) (pending dir limit?).run site).1 = .ok ms)
      (ascending : ms.Pairwise fun a b => a.id < b.id) (followed : FollowedEach ms result new) :
    Course setting listing site dir limit? (result.map fun _ => ⟨ms.map (·.id), rows.length⟩)
      (⟨.store .applied, answer⟩ :: new)

theorem Course.ok_iff {setting : Setting σ} {listing : Listing} {site : Site σ} {dir : Path}
    {limit? : Option Ident} {result : Except Failure Outcome} {new : List Exchange}
    (h : Course setting listing site dir limit? result new) :
    (∃ outcome, result = .ok outcome) ↔
      (∃ found, Directory.seen (listing.sight site.tree) dir = .ok found) ∧
        ∀ x ∈ new, ¬ x.Fails := by
  cases h with
  | unread read =>
      simp only [reduceCtorEq, exists_false, List.mem_singleton, forall_eq, false_iff, not_and,
        not_not]
      exact fun _ => fails_of_rowsOf read
  | unscanned read unseen => simp [unseen]
  | @planned answer rows found ms result new read scanned pending ascending followed =>
      have hended : (∃ outcome, (result.map fun _ => (⟨ms.map (·.id), rows.length⟩ : Outcome)) =
          .ok outcome) ↔ ∃ value, result = .ok value := by
        cases result <;> simp [Except.map]
      have hscanned : ∃ found, Directory.seen (listing.sight site.tree) dir = .ok found :=
        ⟨found, scanned⟩
      rw [hended, followed.ok_iff, List.forall_mem_cons]
      constructor
      · exact fun hpass => ⟨hscanned, passes_of_rowsOf read, hpass⟩
      · exact fun ⟨_, _, hpass⟩ => hpass

/-- Whatever the store answers, a run takes its course and leaves the tree alone. It succeeds if the
directory can be scanned and no call fails. -/
theorem run_course (setting : Setting σ) (listing : Listing) (site : Site σ) (dir : Path)
    (limit? : Option Ident) : ∃ result after new,
    Program.run (setting.handler listing) (run dir limit?).run site = (result, after) ∧
    site.Grows after new ∧ Course setting listing site dir limit? result new ∧
    ((∃ outcome, result = .ok outcome) ↔
      (∃ found, Directory.seen (listing.sight site.tree) dir = .ok found) ∧
        ∀ x ∈ new, ¬ x.Fails) := by
  have htold : site.Grows (setting.told .applied site)
      [⟨.store .applied, (setting.store .applied site.store).1⟩] := ⟨rfl, rfl⟩
  have hpending := run_pending setting listing site dir limit?
  have hplan := run_plan setting listing site dir limit?
  suffices h : ∃ result after new,
      Program.run (setting.handler listing) (run dir limit?).run site = (result, after) ∧
      site.Grows after new ∧ Course setting listing site dir limit? result new by
    obtain ⟨result, after, new, hrun, hgrows, hcourse⟩ := h
    exact ⟨result, after, new, hrun, hgrows, hcourse, hcourse.ok_iff⟩
  cases hread : rowsOf (setting.store .applied site.store).1 with
  | error failure =>
      rw [hread] at hplan
      refine ⟨.error failure, _, _, ?_, htold, .unread hread⟩
      rw [run, Task.run_bind, hplan]
      rfl
  | ok rows =>
      cases hseen : Directory.seen (listing.sight site.tree) dir with
      | error failure =>
          rw [hread, hseen] at hplan
          refine ⟨.error failure, _, _, ?_, htold, .unscanned hread hseen⟩
          rw [run, Task.run_bind, hplan]
          rfl
      | ok found =>
          rw [hread, hseen] at hplan hpending
          obtain ⟨new, hgrows, hfollowed⟩ := Setting.run_of_meets (@meets_followEach σ setting
            listing (setting.told .applied site) (needed rows limit? found))
          have hascending := needed_strict rows limit? (Directory.seen_distinct hseen)
          refine ⟨_, _, _, ?_, htold.trans hgrows,
            .planned hread hseen hpending hascending hfollowed⟩
          rw [run, Task.run_bind, hplan]
          dsimp only [Except.bind]
          rw [Task.run_bind]
          rcases Program.run (setting.handler listing) (applyEach (needed rows limit? found)).run
            (setting.told .applied site) with ⟨result, after⟩
          cases result <;> rfl

end Run

end Apply

end SchemaLedger
