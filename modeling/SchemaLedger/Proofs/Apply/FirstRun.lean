import SchemaLedger.Proofs.Apply.Advance
import SchemaLedger.Proofs.Apply.Reentry

/-! # The first run

Where there is no ledger yet, a run begins with the bootstrap migration if the directory holds it,
whatever else is there. Without it, a run gets no further than its first claim. -/

namespace SchemaLedger

/-- How a store without a ledger answers: it has no rows to show, it remains without one while a
transaction is begun, and it refuses a claim, though not because the ID is taken. -/
structure Store.Engine.Lacking {σ : Type} (engine : Engine σ) (lacks : σ → Prop) : Prop where
  possible : ∀ {s}, lacks s → engine.possible s
  empty : ∀ {s}, lacks s → (engine.view s).ledger = []
  read : ∀ {s answer s'}, lacks s → engine.answers .applied s answer s' →
    answer = .error .tableMissing ∧ lacks s'
  begin : ∀ {s answer s'}, lacks s → engine.answers .begin s answer s' → lacks s'
  claim : ∀ {tx id slug s answer s'}, lacks s → engine.answers (.claim tx id slug) s answer s' →
    ∃ error, answer = .error error ∧ ∀ message, error ≠ .uniqueViolation message

/-! ## Finding the bootstrap migration -/

open Files (Location Tree)

theorem Directory.exists_found {tree : Tree} {listing : Listing} {dir : Path} {loc : Location}
    {found : List Migration} {k : Made} {file : Name × Octets} (proper : tree.Proper)
    (denotes : tree.Denotes dir loc) (hfile : file ∈ filesIn tree loc) (clean : Slug.Clean k.slug)
    (filed : k.Filed file) (seen : Directory.seen (listing.sight tree) dir = .ok found) :
    ∃ m ∈ found, Made.of m = k := by
  obtain ⟨entries, hlist, hreads, _⟩ := seen_eq_ok.mp seen
  obtain ⟨width, rfl⟩ := filed
  have hx := mem_filesIn.mp hfile
  have hname : Text.octets (FileName.write width k.id k.slug) ∈ entries := by
    obtain ⟨names, hnames, rfl⟩ := Listing.exists_listed hlist
    rw [list_of_denotes denotes] at hnames
    rw [(listing.perm _).mem_iff, ← Except.ok.inj hnames, Tree.names_eq]
    exact List.mem_map_of_mem hx
  obtain ⟨m, hm, hreads⟩ := exists_related hreads.flip hname
  have hmade := made_of_reads (fun _ => rfl) proper denotes clean ⟨width, rfl⟩ hx hreads
  exact ⟨m, hm, hmade.1⟩

namespace Apply

open Store (Claim Effect Engine Outlook Tx Work)

variable {found : List Migration} {m : Migration} {limit? : Option Ident}

/-! ## Plans without a ledger -/

theorem needed_eq_cons {rows : List LedgerRow} (distinct : (found.map (·.id)).Nodup)
    (hm : m ∈ needed rows limit? found) (least : ∀ k ∈ found, m.id ≤ k.id) :
    ∃ rest, needed rows limit? found = m :: rest := by
  have hstrict := needed_strict rows limit? distinct
  cases hneeded : needed rows limit? found with
  | nil =>
      rw [hneeded] at hm
      cases hm
  | cons k rest =>
      have hk : k ∈ found := mem_needed (hneeded ▸ List.mem_cons_self)
      rw [hneeded] at hm hstrict
      rcases List.mem_cons.mp hm with rfl | hrest
      · exact ⟨rest, rfl⟩
      · have hlt : k.id < m.id := (List.pairwise_cons.mp hstrict).1 m hrest
        exact absurd hlt (Nat.not_lt.mpr (least k hk))

theorem mem_needed_nil : m ∈ needed [] limit? found ↔ m ∈ found ∧ Admits limit? m.id := by
  rw [mem_needed_iff]
  simp

/-- Without a ledger, what is needed besides the first migration is all others up to the limit. -/
theorem needed_nil_eq_cons (distinct : (found.map (·.id)).Nodup) (hm : m ∈ found)
    (first : m.id = .first) : needed [] limit? found =
      m :: upTo limit? (Migration.sortById (found.filter fun k => k.id ≠ .first)) := by
  have hneeded : m ∈ needed [] limit? found := by
    refine mem_needed_nil.mpr ⟨hm, fun _ _ => ?_⟩
    rw [first]
    exact Nat.zero_le _
  obtain ⟨rest, hrest⟩ := needed_eq_cons distinct hneeded fun k _ => by
    rw [first]
    exact Nat.zero_le _
  have hstrict := needed_strict [] limit? distinct
  rw [hrest] at hstrict
  have hlater : rest.filter (fun k => k.id ≠ .first) = rest := by
    refine List.filter_eq_self.mpr ?_
    intro k hk
    have hlt : m.id < k.id := (List.pairwise_cons.mp hstrict).1 k hk
    rw [decide_eq_true_eq]
    rintro heq
    rw [first, heq] at hlt
    exact absurd hlt (Nat.lt_irrefl _)
  have hall : needed [] limit? found = upTo limit? (Migration.sortById found) := by
    rw [needed, pendingAmong, List.filter_eq_self.mpr (by simp)]
  rw [hrest, ← hlater, sortById_filter (.refl found) distinct, ← upTo_filter, ← hall, hrest,
    List.filter_cons_of_neg (by simp [first])]

/-! ## Runs without a ledger -/

/-- A migration that is run by itself is executed first. If that fails, nothing follows. -/
theorem FollowedEach.first_of_alone {ms : List Migration} (alone : ¬ Transactional m)
    {result : Except Failure Unit} {new : List Exchange} (h : FollowedEach (m :: ms) result new) :
    ∃ answer rest, new = ⟨.store (.execute m.content), answer⟩ :: rest ∧
      ∀ error, answer = .error error → rest = [] := by
  have hscript : ∀ tx, script m tx = [⟨.store (.execute m.content), .ok ()⟩] := script_of_alone alone
  cases h with
  | whole txs opened =>
      cases txs with
      | nil => cases opened
      | cons tx txs =>
          rw [scripts, List.zipWith_cons_cons, List.flatten_cons, hscript]
          exact ⟨.ok (), _, rfl, fun _ h => by cases h⟩
  | @cut done txs later k failure last split opened followed =>
      cases done with
      | nil =>
          cases split
          have hcall := followed.call_of_alone alone
          cases last with
          | nil => cases hcall
          | cons x rest =>
              obtain ⟨call, answer⟩ := x
              rw [List.map_cons, List.cons.injEq] at hcall
              obtain ⟨rfl, hrest⟩ := hcall
              exact ⟨answer, rest, rfl, fun _ _ => List.map_eq_nil_iff.mp hrest⟩
      | cons k done =>
          cases split
          cases txs with
          | nil => cases opened
          | cons tx txs =>
              rw [scripts, List.zipWith_cons_cons, List.flatten_cons, hscript]
              exact ⟨.ok (), _, rfl, fun _ h => by cases h⟩

section Run

variable {σ : Type} {setting : Setting σ} {listing : Listing} {site after : Site σ} {dir : Path}
variable {engine : Engine σ} {effect : Effect} {lacks : σ → Prop} {o : Outlook}

theorem run_applyEach_error {rest : List Migration} {failure : Failure}
    (h : Program.run (setting.handler listing) (apply m).run site = (.error failure, after)) :
    Program.run (setting.handler listing) (applyEach (m :: rest)).run site =
      (.error failure, after) := by
  rw [applyEach, Task.run_bind, Task.run_note]
  dsimp only [Setting.handler]
  rw [Task.run_bind, h]

theorem run_applyDirectly {answer : Except StoreError Unit} {s' : σ}
    (h : setting.store (.execute m.content) site.store = (answer, s')) :
    Program.run (setting.handler listing) (applyDirectly m).run site =
      (answer.mapError (Failure.applyFailure m.name),
        ⟨site.tree, s', site.record ++ [⟨.store (.execute m.content), answer⟩]⟩) := by
  rw [applyDirectly, Task.run_bind, Task.run_note]
  dsimp only [Setting.handler]
  rw [Task.run_bind, Task.run_store]
  dsimp only [Setting.handler, Setting.told]
  rw [h]
  exact Task.run_ofExcept _ _ _ _

variable (backed : setting.BackedBy engine) (lacking : engine.Lacking lacks)

include backed lacking

/-- Without a ledger, a migration that claims its ID gets no further than that. -/
theorem meets_refused (inside : Transactional m) (start : lacks site.store) :
    Program.Meets (setting.surroundings listing) (apply m).run
      (fun result after => ∃ error new, result = .error (.applyFailure m.name error) ∧
        site.Grows after new ∧ ∀ tx, .store (.commit tx) ∉ new.map (·.call)) site := by
  have hclaimed : apply m = applyClaimed m := if_neg (by simpa [Transactional] using inside)
  rw [hclaimed, applyClaimed, Task.meets_bind]
  refine Setting.meets_asking fun begun site₁ hbegun hgrown => ?_
  rw [Task.Then]
  cases begun with
  | error error => exact ⟨error, _, rfl, hgrown, by simp⟩
  | ok tx =>
      have hlacks := lacking.begin start (backed _ _ _ _ hbegun)
      rw [Task.meets_ofExcept_ok, Task.meets_bind]
      refine Setting.meets_asking fun claimed site₂ hclaimed hgrown' => ?_
      obtain ⟨error, rfl, hother⟩ := lacking.claim hlacks (backed _ _ _ _ hclaimed)
      have hfailure : claimFailure m error = .applyFailure m.name error := by
        rw [claimFailure]
        exact hother
      rw [Task.Then]
      refine meets_rollingBack fun ended after hended => ?_
      exact ⟨error, _, congrArg Except.error hfailure, (hgrown.trans hgrown').trans hended, by simp⟩

theorem rowsOf_lacking (start : lacks site.store) :
    (setting.store .applied site.store).1 = .error .tableMissing ∧
      rowsOf (setting.store .applied site.store).1 = .ok [] ∧
      lacks (setting.told .applied site).store := by
  obtain ⟨hmissing, hlacks⟩ := lacking.read start (backed _ _ _ _ rfl)
  exact ⟨hmissing, by rw [hmissing, rowsOf], hlacks⟩

end Run

/-- The bootstrap migration, followed by migrations that claim their IDs, leaves one row for each. -/
theorem ledger_of_bootstrap {effect : Effect} {o o' : Outlook} {ms : List Migration}
    (creates : ∀ rows, effect.alone Bootstrap.sql [] rows → rows = [⟨.first, Bootstrap.slug⟩])
    (content : m.content = Bootstrap.sql) (new : o.ledger = [])
    (h : AdvancesAll effect o (m :: ms) o') (inside : ∀ k ∈ ms, Transactional k)
    (leaves : ∀ k ∈ ms, Effect.Leaves (effect.inside k.content)) :
    o'.ledger = ⟨.first, Bootstrap.slug⟩ :: ms.map claimOf := by
  have halone : ¬ Transactional m := by
    simp [Transactional, content, bootstrap_skipsTransaction]
  cases h with
  | cons first rest =>
      obtain ⟨hrows, _⟩ := (advances_iff_of_alone halone).mp first
      rw [content, new] at hrows
      rw [rest.ledger_eq inside leaves, creates _ hrows]
      rfl

/-! ## The bootstrap migration comes first -/

open Directory (Made filesIn)

section First

variable {σ : Type} {setting : Setting σ} {listing : Listing} {site : Site σ} {dir : Path}
variable {engine : Engine σ} {effect : Effect} {lacks : σ → Prop}

variable (honours : engine.Honours effect) (backed : setting.BackedBy engine)
variable (lacking : engine.Lacking lacks) (start : lacks site.store)
variable (seen : Directory.seen (listing.sight site.tree) dir = .ok found)

include honours backed lacking start seen

theorem run_bootstrap
    (creates : ∀ rows, effect.alone Bootstrap.sql [] rows → rows = [⟨.first, Bootstrap.slug⟩])
    (hm : m ∈ found) (made : Made.of m = .bootstrap) :
    ∃ result after answer rest,
      Program.run (setting.handler listing) (run dir limit?).run site = (result, after) ∧
      site.Grows after (⟨.store .applied, .error .tableMissing⟩ ::
        ⟨.store (.execute Bootstrap.sql), answer⟩ :: rest) ∧
      (∀ error, answer = .error error → rest = []) ∧
      ((∀ x ∈ ⟨.store (.execute Bootstrap.sql), answer⟩ :: rest, ¬ x.Fails) →
        (∀ tx, (engine.view site.store).opened tx = none) →
        (∀ k ∈ found, k.id ≠ .first → Transactional k ∧ Effect.Leaves (effect.inside k.content)) →
        (∃ outcome, result = .ok outcome) ∧ (engine.view after.store).ledger =
          ⟨.first, Bootstrap.slug⟩ :: (upTo limit? (Migration.sortById
            (found.filter fun k => k.id ≠ .first))).map claimOf) := by
  obtain ⟨hid, _, hcontent⟩ := Made.mk.inj made
  have halone : ¬ Transactional m := by
    simp [Transactional, show m.content = Bootstrap.sql from hcontent, bootstrap_skipsTransaction]
  obtain ⟨hmissing, hread, _⟩ := rowsOf_lacking backed lacking start
  have hneeded : needed [] limit? found = _ :=
    needed_nil_eq_cons (Directory.seen_distinct seen) hm hid
  rcases heach : Program.run (setting.handler listing) (applyEach (needed [] limit? found)).run
    (setting.told .applied site) with ⟨result, after⟩
  obtain ⟨new, hgrows, hfollowed⟩ := followedEach_of_run heach
  rw [hneeded] at hfollowed
  -- The bootstrap migration is the first that is needed, and it is run by itself.
  obtain ⟨answer, rest, rfl, hlast⟩ := hfollowed.first_of_alone halone
  have htold := @Setting.grows_told σ setting site .applied
  rw [hmissing] at htold
  refine ⟨_, after, answer, rest, run_planned hread seen heach, ?_, hlast, ?_⟩
  · rw [hcontent] at hgrows
    exact htold.trans hgrows
  · intro hpass idle others
    have hok := hfollowed.ok_iff
    rw [hcontent] at hok
    obtain ⟨_, rfl⟩ := hok.mpr hpass
    refine ⟨⟨_, rfl⟩, ?_⟩
    have hamid := Engine.Amid.of_idle (lacking.possible start) idle
    obtain ⟨o', hadvances, hafter⟩ :=
      advancedAll_of_run honours backed (amid_told honours backed hamid).1 heach
    rw [hneeded] at hadvances
    have hothers : ∀ k ∈ upTo limit? (Migration.sortById (found.filter fun k => k.id ≠ .first)),
        Transactional k ∧ Effect.Leaves (effect.inside k.content) := by
      intro k hk
      have hmem := List.mem_mergeSort.mp (mem_upTo.mp hk).1
      obtain ⟨hfound, hother⟩ := List.mem_filter.mp hmem
      exact others k hfound (by simpa using hother)
    have hledger := ledger_of_bootstrap creates hcontent (lacking.empty start) hadvances
      (fun k hk => (hothers k hk).1) (fun k hk => (hothers k hk).2)
    rw [hafter.view]
    exact hledger

/-- Where the smallest of the migrations needed claims its ID, a run fails without a commit. -/
theorem run_unfounded (hm : m ∈ found) (least : ∀ k ∈ found, m.id ≤ k.id)
    (admits : Admits limit? m.id) (inside : Transactional m) :
    ∃ error after new,
      Program.run (setting.handler listing) (run dir limit?).run site =
        (.error (.applyFailure m.name error), after) ∧
      site.Grows after new ∧ (∀ tx, .store (.commit tx) ∉ new.map (·.call)) ∧
      ((∀ tx, (engine.view site.store).opened tx = none) →
        engine.view after.store = engine.view site.store) := by
  obtain ⟨_, hread, hlacks⟩ := rowsOf_lacking backed lacking start
  obtain ⟨rest, hneeded⟩ := needed_eq_cons (Directory.seen_distinct seen)
    (mem_needed_nil.mpr ⟨hm, admits⟩) least
  rcases happly : Program.run (setting.handler listing) (apply m).run
    (setting.told .applied site) with ⟨result, after⟩
  have hmeets : Program.Meets (setting.surroundings listing) (apply m).run _
      (setting.told .applied site) := meets_refused backed lacking inside hlacks
  have hrefused := Setting.run_of_meets hmeets
  rw [happly] at hrefused
  obtain ⟨error, new, rfl, hgrows, huncommitted⟩ := hrefused
  have heach : Program.run (setting.handler listing) (applyEach (m :: rest)).run _ = _ :=
    run_applyEach_error happly
  rw [← hneeded] at heach
  refine ⟨error, after, _, run_planned hread seen heach, (Setting.grows_told _).trans hgrows, ?_, ?_⟩
  · intro tx hcommit
    rw [List.map_append] at hcommit
    rcases List.mem_append.mp hcommit with hcommit | hcommit
    · simp at hcommit
    · exact huncommitted tx hcommit
  · intro idle
    have hamid := Engine.Amid.of_idle (lacking.possible start) idle
    have hafter : engine.Amid (engine.view site.store).outlook none after.store :=
      advanced_of_run honours backed (amid_told honours backed hamid).1 happly
    exact hafter.view.trans hamid.view.symm

/-- Without a ledger, a run over a directory that holds the bootstrap migration, under whatever name
it has been given, executes that before anything else, and nothing after it if it fails. If no call
fails, the ledger then has one row for each migration up to the limit. Without the bootstrap
migration, a run fails at the first claim and commits nothing. -/
theorem bootstrap_comes_first
    (creates : ∀ rows, effect.alone Bootstrap.sql [] rows → rows = [⟨.first, Bootstrap.slug⟩])
    (limit? : Option Ident) :
    (∀ loc file, site.tree.Proper → site.tree.resolve dir = .ok loc →
      file ∈ filesIn site.tree loc → Made.bootstrap.Filed file →
      ∃ result after answer rest,
        Program.run (setting.handler listing) (run dir limit?).run site = (result, after) ∧
        site.Grows after (⟨.store .applied, .error .tableMissing⟩ ::
          ⟨.store (.execute Bootstrap.sql), answer⟩ :: rest) ∧
        (∀ error, answer = .error error → rest = []) ∧
        ((∀ x ∈ ⟨.store (.execute Bootstrap.sql), answer⟩ :: rest, ¬ x.Fails) →
          (∀ tx, (engine.view site.store).opened tx = none) →
          (∀ k ∈ found, k.id ≠ .first →
            Transactional k ∧ Effect.Leaves (effect.inside k.content)) →
          (∃ outcome, result = .ok outcome) ∧ (engine.view after.store).ledger =
            ⟨.first, Bootstrap.slug⟩ :: (upTo limit? (Migration.sortById
              (found.filter fun k => k.id ≠ .first))).map claimOf)) ∧
    (∀ m ∈ found, (∀ k ∈ found, m.id ≤ k.id) → Admits limit? m.id → Transactional m →
      ∃ error after new,
        Program.run (setting.handler listing) (run dir limit?).run site =
          (.error (.applyFailure m.name error), after) ∧
        site.Grows after new ∧ (∀ tx, .store (.commit tx) ∉ new.map (·.call)) ∧
        ((∀ tx, (engine.view site.store).opened tx = none) →
          engine.view after.store = engine.view site.store)) := by
  refine ⟨?_, fun m hm => run_unfounded honours backed lacking start seen hm⟩
  intro loc file proper resolves hfile filed
  obtain ⟨found', hfinds, _⟩ := (Directory.seen_eq_ok.mp seen).relist .plain
  rw [Listing.sight_plain] at hfinds
  obtain ⟨loc', hdenotes⟩ := Directory.exists_denotes hfinds
  have hloc : loc' = loc :=
    Except.ok.inj ((Files.Tree.denotes_iff.mp hdenotes).1.symm.trans resolves)
  rw [hloc] at hdenotes
  obtain ⟨m, hm, made⟩ :=
    Directory.exists_found proper hdenotes hfile Directory.clean_bootstrap filed seen
  exact run_bootstrap honours backed lacking start seen creates hm made

end First

/-! ## The cabinet -/

open Store (Memory)

theorem memory_lacking : Memory.engine.Lacking fun s => s.Sound ∧ s.ledger = none where
  possible h := h.1
  empty h := by simp [Memory.engine, Engine.ofHandler, Memory.view, h.2]
  read := by
    rintro s answer s' ⟨hsound, hnone⟩ h
    have hanswer : Memory.answer .applied s = (answer, s') := h
    simp only [Memory.answer, hnone, Prod.mk.injEq] at hanswer
    exact ⟨hanswer.1.symm, hanswer.2 ▸ hsound, hanswer.2 ▸ hnone⟩
  begin := by
    rintro s answer s' ⟨hsound, hnone⟩ h
    have hbegun := Memory.answer_permits hsound .begin (by rintro _ ⟨⟩)
    rw [show Memory.answer .begin s = (answer, s') from h] at hbegun
    cases h
    exact ⟨hbegun.1, hnone⟩
  claim := by
    rintro tx id slug s answer s' ⟨_, hnone⟩ h
    have hanswer : s.claim tx id slug = (answer, s') := h
    simp only [Memory.claim, hnone, Option.isNone_none, if_true, Prod.mk.injEq] at hanswer
    exact ⟨.tableMissing, hanswer.1.symm, fun _ h => by cases h⟩

def unopened : Site Memory := ⟨cabinet, .ofLedger none, []⟩

/-- A migration that creates the ledger is followed by one that claims its ID. -/
theorem run_creating (m : Migration) (alone : Directive.skipsTransaction m.content = true)
    (creates : (Memory.ofLedger none).execute m.content =
      (.ok (), ⟨some [⟨.first, Bootstrap.slug⟩], [], [.direct m.content], 0⟩)) :
    Program.run (Setting.inMemory.handler .plain) (applyEach [m, third]).run
      (Setting.inMemory.told .applied unopened) =
      (.ok (), ⟨cabinet, ⟨some [⟨.first, Bootstrap.slug⟩, ⟨third.id, "three"⟩], [],
        [.direct m.content, ⟨[⟨third.id, "three"⟩], ["select 3;"]⟩], 1⟩,
        [⟨.store .applied, .error .tableMissing⟩, ⟨.store (.execute m.content), .ok ()⟩,
          ⟨.store .begin, .ok ⟨0⟩⟩, ⟨.store (.claim ⟨0⟩ third.id "three"), .ok ()⟩,
          ⟨.store (.executeIn ⟨0⟩ "select 3;"), .ok ()⟩, ⟨.store (.commit ⟨0⟩), .ok ()⟩]⟩) := by
  have hdirectly : apply m = applyDirectly m := if_pos alone
  have hexecute : Setting.inMemory.store (.execute m.content)
      (Setting.inMemory.told .applied unopened).store = _ := creates
  have hfirst : Program.run (Setting.inMemory.handler .plain) (applyDirectly m).run _ = _ :=
    run_applyDirectly hexecute
  rw [applyEach, Task.run_bind, Task.run_note]
  dsimp only [Setting.handler]
  rw [Task.run_bind, hdirectly, hfirst]
  rfl

theorem cabinet_proper : cabinet.Proper := by
  refine ⟨by decide, ?_⟩
  intro loc entry h
  have hdir : cabinet.isDirectory [Text.octets "m"] = true := by decide
  simp only [cabinet, List.mem_cons, Prod.mk.injEq, List.not_mem_nil, or_false] at h
  rcases h with ⟨rfl, _⟩ | ⟨rfl, _⟩ | ⟨rfl, _⟩
  · exact ⟨_, _, rfl, rfl⟩
  · exact ⟨_, _, rfl, hdir⟩
  · exact ⟨_, _, rfl, hdir⟩

theorem unopened_seen : Directory.seen (Listing.plain.sight unopened.tree) (.ofText "m") =
    .ok [initial, third] := by
  rw [Listing.sight_plain]
  exact cabinet_seen

def inaugural : List Exchange :=
  [⟨.store .applied, .error .tableMissing⟩, ⟨.store (.execute Bootstrap.sql), .ok ()⟩,
    ⟨.store .begin, .ok ⟨0⟩⟩, ⟨.store (.claim ⟨0⟩ third.id "three"), .ok ()⟩,
    ⟨.store (.executeIn ⟨0⟩ "select 3;"), .ok ()⟩, ⟨.store (.commit ⟨0⟩), .ok ()⟩]

theorem unopened_run :
    Program.run (Setting.inMemory.handler .plain) (run (.ofText "m") none).run unopened =
      (.ok ⟨[.first, third.id], 0⟩, ⟨cabinet, arranged, inaugural⟩) := by
  have hneeded : needed [] none [initial, third] = [initial, third] :=
    sortById_of_ascending (by decide)
  have heach : Program.run (Setting.inMemory.handler .plain) (applyEach [initial, third]).run
      (Setting.inMemory.told .applied unopened) = (.ok (), ⟨cabinet, arranged, inaugural⟩) :=
    run_creating initial bootstrap_skipsTransaction bootstrap_creates
  rw [← hneeded] at heach
  have hread : rowsOf (Setting.inMemory.store .applied unopened.store).1 = .ok [] := rfl
  rw [run_planned hread unopened_seen heach, hneeded]
  rfl

theorem inaugural_passes : ∀ x ∈ inaugural, ¬ x.Fails := by
  simp only [inaugural, List.forall_mem_cons]
  refine ⟨?_, nofun, nofun, nofun, nofun, nofun, nofun⟩
  exact passes_of_rowsOf (show rowsOf (.error .tableMissing) = .ok [] from rfl)

def unfounded : Files.Tree :=
  ⟨[([Text.octets "m"], .directory),
    ([Text.octets "3-three.sql", Text.octets "m"], .file (Text.octets "select 3;"))], []⟩

def barren : Site Memory := ⟨unfounded, .ofLedger none, []⟩

theorem barren_seen :
    Directory.seen (Listing.plain.sight barren.tree) (.ofText "m") = .ok [third] := by
  refine Directory.seen_eq_ok.mpr ⟨[Text.octets "3-three.sql"], rfl, ?_, List.nodup_singleton _⟩
  exact .cons ⟨rfl, rfl, rfl⟩ .nil

theorem bootstrap_comes_first_cabinet :
    (∃ after answer rest,
      unopened.Grows after (⟨.store .applied, .error .tableMissing⟩ ::
        ⟨.store (.execute Bootstrap.sql), answer⟩ :: rest) ∧
      (Memory.engine.view after.store).ledger =
        ⟨.first, Bootstrap.slug⟩ :: (upTo none (Migration.sortById [third])).map claimOf) ∧
    ∃ error after,
      Program.run (Setting.inMemory.handler .plain) (run (.ofText "m") none).run barren =
        (.error (.applyFailure "3-three.sql" error), after) := by
  have hcreates : ∀ rows, Memory.effect.alone Bootstrap.sql [] rows →
      rows = [⟨.first, Bootstrap.slug⟩] := by
    intro rows
    simp only [Memory.effect, if_true]
    exact And.right
  have hstart : (Memory.ofLedger none).Sound ∧ (Memory.ofLedger none).ledger = none :=
    ⟨Memory.ofLedger_sound (by simp), rfl⟩
  constructor
  · have hfiled : Made.bootstrap.Filed (Text.octets "0-init.sql", Text.octets Bootstrap.sql) := by
      refine ⟨0, Prod.ext ?_ rfl⟩
      have hname : FileName.write 0 .first Bootstrap.slug = "0-init.sql" := by decide +kernel
      exact (congrArg Text.octets hname).symm
    have hfile : (Text.octets "0-init.sql", Text.octets Bootstrap.sql) ∈
        filesIn cabinet [Text.octets "m"] := by
      refine Directory.mem_filesIn.mpr (Files.Tree.mem_entriesIn.mpr ?_)
      exact List.mem_cons_of_mem _ List.mem_cons_self
    have hresolve : cabinet.resolve (.ofText "m") = .ok [Text.octets "m"] := by decide +kernel
    obtain ⟨result, after, answer, rest, hrun, hgrows, _, hrows⟩ :=
      (bootstrap_comes_first Memory.honours Setting.inMemory_backed memory_lacking hstart
        unopened_seen hcreates none).1 _ _ cabinet_proper hresolve hfile hfiled
    cases unopened_run.symm.trans hrun
    refine ⟨_, answer, rest, hgrows, ?_⟩
    have hrecord : inaugural = ⟨.store .applied, .error .tableMissing⟩ ::
        ⟨.store (.execute Bootstrap.sql), answer⟩ :: rest := hgrows.record
    have hothers : ∀ k ∈ [initial, third], k.id ≠ .first →
        Transactional k ∧ Effect.Leaves (Memory.effect.inside k.content) := by
      intro k hk hother
      rcases List.mem_cons.mp hk with rfl | hk
      · exact absurd rfl hother
      · rw [List.mem_singleton.mp hk]
        exact ⟨rfl, Memory.leaves_inside _⟩
    refine (hrows ?_ (fun _ => rfl) hothers).2
    intro x hx
    refine inaugural_passes x ?_
    rw [hrecord]
    exact List.mem_cons_of_mem _ hx
  · have hbarren : barren.store.Sound ∧ barren.store.ledger = none := hstart
    have hleast : ∀ k ∈ [third], third.id ≤ k.id := by
      intro k hk
      rw [List.mem_singleton.mp hk]
      exact Nat.le_refl _
    obtain ⟨error, after, _, hrun, _⟩ :=
      (bootstrap_comes_first Memory.honours Setting.inMemory_backed memory_lacking hbarren
        barren_seen hcreates none).2 third (List.mem_singleton_self _) hleast (by rintro _ ⟨⟩) rfl
    exact ⟨error, after, hrun⟩

end Apply

end SchemaLedger
