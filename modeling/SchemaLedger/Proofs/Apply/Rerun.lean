import SchemaLedger.Proofs.Apply.Advance

/-! # Running again

A run that has come to its end has recorded whatever claims its ID. If the directory stays as it is
and nobody else writes to the store, a further run finds at most migrations that are run by
themselves and have not recorded themselves. -/

namespace SchemaLedger

/-- The ledger can be read: what is answered are rows, or that there is no ledger yet. -/
def Store.Engine.Legible {σ : Type} (engine : Engine σ) (s : σ) : Prop :=
  ∀ answer s', engine.answers .applied s answer s' →
    (∃ rows, answer = .ok rows) ∨ answer = .error .tableMissing ∧ (engine.view s).ledger = []

namespace Apply

open Store (Claim Effect Engine Outlook Tx)

/-! ## Plans after a run -/

section Rerun

variable {σ : Type} {setting : Setting σ} {engine : Engine σ} {effect : Effect}
variable {listing listing' : Listing} {site after : Site σ} {dir : Path}
variable {limit? limit'? : Option Ident} {found found' : List Migration} {o : Outlook}

theorem needed_perm (perm : found'.Perm found) (distinct : (found.map (·.id)).Nodup)
    (rows : List LedgerRow) (limit? : Option Ident) :
    needed rows limit? found' = needed rows limit? found := by
  rw [needed, needed, pendingAmong_perm perm distinct]

theorem seen_relist (seen : Directory.seen (listing.sight site.tree) dir = .ok found)
    (listing' : Listing) :
    ∃ found', Directory.seen (listing'.sight site.tree) dir = .ok found' ∧ found'.Perm found := by
  obtain ⟨found', hfinds, hperm⟩ := (Directory.seen_eq_ok.mp seen).relist listing'
  exact ⟨found', Directory.seen_eq_ok.mpr hfinds, hperm⟩

theorem recorded_iff_mem {rows : List LedgerRow}
    (perm : (rows.map fun row => (⟨row.id, row.slug⟩ : Claim)).Perm o.ledger) (id : Ident) :
    o.Recorded id ↔ id ∈ rows.map (·.id) := by
  have hids := perm.map (·.id)
  rw [List.map_map] at hids
  exact List.mem_map.symm.trans hids.symm.mem_iff

theorem rowsOf_legible (honours : engine.Honours effect) (backed : setting.BackedBy engine)
    (amid : engine.Amid o none site.store) (legible : engine.Legible site.store) :
    ∃ rows, rowsOf (setting.store .applied site.store).1 = .ok rows ∧
      rows.length = o.ledger.length ∧ ∀ id, o.Recorded id ↔ id ∈ rows.map (·.id) := by
  have hperm := (amid_told honours backed amid).2
  rcases legible _ _ (backed _ _ _ _ rfl) with ⟨rows, hrows⟩ | ⟨hmissing, hnone⟩
  · have hperm := hperm rows hrows
    refine ⟨rows, by rw [hrows, rowsOf], ?_, recorded_iff_mem hperm⟩
    simpa using hperm.length_eq
  · have hledger : o.ledger = [] := by
      rw [amid.view] at hnone
      exact hnone
    exact ⟨[], by rw [hmissing, rowsOf], by rw [hledger]; rfl, by simp [Outlook.Recorded, hledger]⟩

/-- What a run that succeeds may leave to be applied: migrations that are run by themselves, which
it has run, and which are still not in the ledger. -/
theorem left_of_run (honours : engine.Honours effect) (backed : setting.BackedBy engine)
    (amid : engine.Amid o none site.store)
    (seen : Directory.seen (listing.sight site.tree) dir = .ok found)
    (keeps : ∀ m ∈ found, Effect.Keeps (effectOf effect m)) {outcome : Outcome}
    (ended : Program.run (setting.handler listing) (run dir limit?).run site = (.ok outcome, after)) :
    ∃ o' new, engine.Amid o' none after.store ∧ site.Grows after new ∧
      ∀ m ∈ found, Admits limit? m.id → ¬ o'.Recorded m.id →
        ¬ Transactional m ∧ (⟨.store (.execute m.content), .ok ()⟩ : Exchange) ∈ new := by
  obtain ⟨rows, hread, _, heach⟩ := planned_of_run seen ended
  obtain ⟨hamid, hrows⟩ := amid_told honours backed amid
  obtain ⟨o', hadvances, hlast⟩ := advancedAll_of_run honours backed hamid heach
  obtain ⟨new, hgrows, hfollowed⟩ := followedEach_of_run heach
  have hkeeps : ∀ m ∈ needed rows limit? found, Effect.Keeps (effectOf effect m) :=
    fun m hm => keeps m (mem_needed hm)
  -- A run without a ledger takes no ID for recorded.
  have hbefore : ∀ id ∈ rows.map (·.id), o.Recorded id := by
    intro id hid
    cases hanswer : (setting.store .applied site.store).1 with
    | ok answered =>
        rw [hanswer, rowsOf] at hread
        cases hread
        exact (recorded_iff_mem (hrows rows hanswer) id).mpr hid
    | error error =>
        rw [hanswer] at hread
        cases error <;> cases hread
        cases hid
  refine ⟨o', _, hlast, (Setting.grows_told _).trans hgrows, ?_⟩
  intro m hm admits unrecorded
  have hneeded : m ∈ needed rows limit? found := by
    refine mem_needed_iff.mpr ⟨hm, fun hid => unrecorded ?_, admits⟩
    exact (hbefore _ hid).mono (hadvances.subset hkeeps)
  have halone : ¬ Transactional m :=
    fun inside => unrecorded (hadvances.recorded hkeeps m hneeded inside)
  exact ⟨halone, List.mem_append_right _ (hfollowed.executed hneeded halone)⟩

/-- A run that needs only migrations that are run by themselves reads the ledger and executes these.
It changes nothing if it needs none. -/
theorem run_alone (honours : engine.Honours effect) (backed : setting.BackedBy engine)
    (amid : engine.Amid o none site.store) {rows : List LedgerRow}
    (read : rowsOf (setting.store .applied site.store).1 = .ok rows)
    (seen : Directory.seen (listing.sight site.tree) dir = .ok found)
    (alone : ∀ m ∈ needed rows limit? found, ¬ Transactional m) :
    ∃ result after new,
      Program.run (setting.handler listing) (run dir limit?).run site = (result, after) ∧
      site.Grows after new ∧
      (new.map (·.call) <+: .store .applied ::
        (needed rows limit? found).map fun m => .store (.execute m.content)) ∧
      ((∃ outcome, result = .ok outcome) →
        result = .ok ⟨(needed rows limit? found).map (·.id), rows.length⟩ ∧
        new.map (·.call) = .store .applied ::
          (needed rows limit? found).map fun m => .store (.execute m.content)) ∧
      (needed rows limit? found = [] →
        (∃ outcome, result = .ok outcome) ∧ engine.Amid o none after.store) := by
  rcases heach : Program.run (setting.handler listing) (applyEach (needed rows limit? found)).run
    (setting.told .applied site) with ⟨result, after⟩
  have hadvanced := advancedAll_of_run honours backed (amid_told honours backed amid).1 heach
  obtain ⟨new, hgrows, hfollowed⟩ := followedEach_of_run heach
  obtain ⟨hcalls, hall⟩ := hfollowed.calls_of_alone alone
  refine ⟨_, after, _, run_planned read seen heach, (Setting.grows_told _).trans hgrows, ?_, ?_, ?_⟩
  · exact List.cons_prefix_cons.mpr ⟨rfl, hcalls⟩
  · rintro ⟨outcome, hok⟩
    cases result with
    | error failure => cases hok
    | ok => exact ⟨rfl, congrArg (_ :: ·) (hall rfl)⟩
  · intro hnone
    rw [hnone] at hadvanced
    cases result with
    | error failure =>
        obtain ⟨done, m, rest, _, hsplit, _⟩ := hadvanced
        simp at hsplit
    | ok =>
        obtain ⟨last, hadvances, hlast⟩ := hadvanced
        cases hadvances
        exact ⟨⟨_, rfl⟩, hlast⟩

/-- After a run that has succeeded, all that is left up to a limit no larger are the migrations that
are run by themselves and have not recorded themselves. A further run executes these and calls for
nothing else; where there are none, it changes nothing. -/
theorem run_after_run (honours : engine.Honours effect) (backed : setting.BackedBy engine)
    (start : engine.possible site.store) (idle : ∀ tx, (engine.view site.store).opened tx = none)
    (seen : Directory.seen (listing.sight site.tree) dir = .ok found)
    (keeps : ∀ m ∈ found, Effect.Keeps (effectOf effect m)) {outcome : Outcome}
    (ended : Program.run (setting.handler listing) (run dir limit?).run site = (.ok outcome, after))
    (legible : engine.Legible after.store) (noLater : NoLater limit'? limit?)
    (listing' : Listing) :
    ∃ left,
      (Program.run (setting.handler listing') (pending dir limit'?).run after).1 = .ok left ∧
      left.Pairwise (fun a b => a.id < b.id) ∧
      (∀ m, m ∈ left ↔ m ∈ found ∧ ¬ Transactional m ∧ Admits limit'? m.id ∧
        ¬ (engine.view after.store).Recorded m.id) ∧
      (∃ new, site.Grows after new ∧
        ∀ m ∈ left, (⟨.store (.execute m.content), .ok ()⟩ : Exchange) ∈ new) ∧
      ∃ result again new,
        Program.run (setting.handler listing') (run dir limit'?).run after = (result, again) ∧
        after.Grows again new ∧
        (new.map (·.call) <+: .store .applied :: left.map fun m => .store (.execute m.content)) ∧
        ((∃ outcome', result = .ok outcome') →
          result = .ok ⟨left.map (·.id), (engine.view after.store).ledger.length⟩ ∧
          new.map (·.call) = .store .applied :: left.map fun m => .store (.execute m.content)) ∧
        (left = [] → (∃ outcome', result = .ok outcome') ∧
          engine.view again.store = engine.view after.store) := by
  have hamid := Engine.Amid.of_idle start idle
  obtain ⟨o', first, hafter, hfirst, hleft⟩ := left_of_run honours backed hamid seen keeps ended
  have hledger : (engine.view after.store).ledger = o'.ledger := by
    rw [hafter.view]
    rfl
  have hrecorded : ∀ id, (engine.view after.store).Recorded id ↔ o'.Recorded id := by
    intro id
    rw [hafter.view]
    exact o'.view_recorded none id
  obtain ⟨rows, hread, hlength, hids⟩ := rowsOf_legible honours backed hafter legible
  obtain ⟨found', hseen', hperm⟩ := seen_relist seen listing'
  rw [← hfirst.tree] at hseen'
  have hneeded := needed_perm hperm (Directory.seen_distinct seen) rows limit'?
  -- After a run that has succeeded, what claims its ID is recorded.
  have hmem : ∀ m, m ∈ needed rows limit'? found ↔ m ∈ found ∧ ¬ Transactional m ∧
      Admits limit'? m.id ∧ ¬ (engine.view after.store).Recorded m.id := by
    intro m
    rw [mem_needed_iff, hrecorded, hids]
    constructor
    · rintro ⟨hm, hnew, admits⟩
      have hunrecorded : ¬ o'.Recorded m.id := fun h => hnew ((hids _).mp h)
      exact ⟨hm, (hleft m hm (noLater.admits admits) hunrecorded).1, admits, hnew⟩
    · rintro ⟨hm, _, admits, hnew⟩
      exact ⟨hm, hnew, admits⟩
  have hpending := run_pending setting listing' after dir limit'?
  rw [hread, hseen'] at hpending
  refine ⟨needed rows limit'? found, hpending.trans (congrArg Except.ok hneeded),
    needed_strict rows limit'? (Directory.seen_distinct seen), hmem, ⟨first, hfirst, ?_⟩, ?_⟩
  · intro m hm
    obtain ⟨hfound, _, admits, hnew⟩ := (hmem m).mp hm
    exact (hleft m hfound (noLater.admits admits) fun h => hnew ((hrecorded _).mpr h)).2
  · have halone : ∀ m ∈ needed rows limit'? found', ¬ Transactional m := by
      rw [hneeded]
      exact fun m hm => ((hmem m).mp hm).2.1
    have hrerun := run_alone honours backed hafter hread hseen' halone
    rw [hneeded, hlength, ← hledger] at hrerun
    obtain ⟨result, again, new, hrun, hgrows, hcalls, hok, hnone⟩ := hrerun
    refine ⟨result, again, new, hrun, hgrows, hcalls, hok, fun hleft => ?_⟩
    obtain ⟨hended, hagain⟩ := hnone hleft
    exact ⟨hended, hagain.view.trans hafter.view.symm⟩

end Rerun

/-! ## A log that is kept by itself -/

open Store (Memory)

def logbook : Files.Tree :=
  ⟨[([Text.octets "m"], .directory),
    ([Text.octets "6-log.sql", Text.octets "m"],
      .file (Text.octets "--drift:no-transaction\nselect 1;")),
    ([Text.octets "8-two.sql", Text.octets "m"], .file (Text.octets "select 2;"))], []⟩

def logging : Migration :=
  ⟨.ofText "m/6-log.sql", "6-log.sql", "--drift:no-transaction\nselect 1;", ⟨6, by decide⟩, "log", "6"⟩

def second : Migration :=
  ⟨.ofText "m/8-two.sql", "8-two.sql", "select 2;", ⟨8, by decide⟩, "two", "8"⟩

theorem logbook_seen : Directory.seen (Listing.plain.sight logbook) (.ofText "m") =
    .ok [logging, second] := by
  refine Directory.seen_eq_ok.mpr ⟨[Text.octets "6-log.sql", Text.octets "8-two.sql"], rfl, ?_, ?_⟩
  · exact .cons ⟨rfl, rfl, rfl⟩ (.cons ⟨rfl, rfl, rfl⟩ .nil)
  · decide

def logged : Memory :=
  ⟨some [⟨.first, "init"⟩, ⟨second.id, "two"⟩], [],
    [.direct logging.content, ⟨[⟨second.id, "two"⟩], ["select 2;"]⟩], 1⟩

def unlogged : Site Memory := ⟨logbook, .ofLedger (some [⟨.first, "init"⟩]), []⟩

theorem unlogged_rows : rowsOf (Setting.inMemory.store .applied unlogged.store).1 =
    .ok [⟨.first, "init", .epoch⟩] := by
  have hrows : Memory.rows [⟨.first, "init"⟩] = [⟨.first, "init", .epoch⟩] := by
    rw [Memory.rows, List.mergeSort_singleton]
    rfl
  exact congrArg Except.ok hrows

theorem logbook_run : ∃ record,
    Program.run (Setting.inMemory.handler .plain) (run (.ofText "m") (some second.id)).run
      unlogged = (.ok ⟨[logging.id, second.id], 1⟩, ⟨logbook, logged, record⟩) := by
  have hneeded : needed [⟨.first, "init", .epoch⟩] (some second.id) [logging, second] =
      [logging, second] := by
    have hsorted : pendingAmong [⟨.first, "init", .epoch⟩] [logging, second] = [logging, second] :=
      sortById_of_ascending (by decide)
    rw [needed, hsorted]
    rfl
  have heach : ∃ record, Program.run (Setting.inMemory.handler .plain)
      (applyEach [logging, second]).run (Setting.inMemory.told .applied unlogged) =
      (.ok (), ⟨logbook, logged, record⟩) := ⟨_, rfl⟩
  obtain ⟨record, heach⟩ := heach
  rw [← hneeded] at heach
  refine ⟨record, (run_planned unlogged_rows logbook_seen heach).trans ?_⟩
  rw [hneeded]
  rfl

/-- Only the log is left, whatever order the directory is listed in. -/
theorem run_after_run_logbook : ∃ record left,
    (Program.run (Setting.inMemory.handler .reversed) (pending (.ofText "m") (some logging.id)).run
      ⟨logbook, logged, record⟩).1 = .ok left ∧ logging ∈ left ∧ second ∉ left := by
  obtain ⟨record, hrun⟩ := logbook_run
  have hstart : Memory.engine.possible unlogged.store := Memory.ofLedger_sound (by decide)
  have hidle : ∀ tx, (Memory.engine.view unlogged.store).opened tx = none := fun _ => rfl
  have hseen : Directory.seen (Listing.plain.sight unlogged.tree) (.ofText "m") =
      .ok [logging, second] := logbook_seen
  have hlegible : Memory.engine.Legible logged := by
    rintro _ _ ⟨⟩
    exact .inl ⟨_, rfl⟩
  have hlimit : NoLater (some logging.id) (some second.id) := by
    rintro _ ⟨⟩
    exact ⟨logging.id, rfl, by decide⟩
  obtain ⟨left, hpending, _, hleft, _⟩ := run_after_run Memory.honours Setting.inMemory_backed
    hstart hidle hseen (fun m _ => memory_keeps m) hrun hlegible hlimit .reversed
  refine ⟨record, left, hpending, (hleft _).mpr ⟨by simp, by decide, ?_, ?_⟩, ?_⟩
  · rintro _ ⟨⟩
    decide
  · rintro ⟨claim, hclaim, hid⟩
    have hother : ∀ claim ∈ logged.view.ledger, claim.id ≠ logging.id := by decide
    exact hother claim hclaim hid
  · intro hsecond
    exact absurd rfl ((hleft _).mp hsecond).2.1

end Apply

end SchemaLedger
