import SchemaLedger.Proofs.Apply.Coherence
import SchemaLedger.Proofs.Store.Memory

/-! # The order of commits

Runs over one directory commit its migrations in ascending order, however they interleave: none
commits a migration before those with smaller IDs are in the ledger. -/

namespace SchemaLedger.Apply

open Store (Claim Effect Engine Scene Session Tx View Work)

/-- A migration is due once every smaller ID of the directory is known to be in the ledger. -/
def Preceded (ms : List Migration) (known : List Ident) (m : Migration) : Prop :=
  ∀ g ∈ ms, Transactional g → g.id < m.id → g.id ∈ known

/-- The claims that have been committed, in the order of their commits. -/
def committedClaims (v : View) : List Claim := v.committed.flatMap (·.claims)

/-! ## One list -/

/-- Each migration of a directory is known, or on the list, or beyond all that are on it. -/
def Covers (ms : List Migration) (known : List Ident) (todo : List Migration) : Prop :=
  ∀ g ∈ ms, Transactional g → g.id ∈ known ∨ g ∈ todo ∨ ∀ m ∈ todo, m.id < g.id

theorem Covers.rest {ms : List Migration} {known : List Ident} {m : Migration}
    {todo : List Migration} (h : Covers ms known (m :: todo)) :
    Covers ms (knownAfter known m) todo := by
  intro g hg inside
  rcases h g hg inside with hknown | hmem | hbeyond
  · left
    rw [knownAfter]
    split
    · exact List.mem_append_left _ hknown
    · exact hknown
  · rcases List.mem_cons.mp hmem with rfl | hmem
    · left
      rw [knownAfter, if_pos inside]
      exact List.mem_append_right _ List.mem_cons_self
    · exact .inr (.inl hmem)
  · exact .inr (.inr fun other hother => hbeyond other (List.mem_cons_of_mem m hother))

/-- A list that ascends and covers a directory is one whose migrations are due in turn. -/
theorem Covers.inTurn {ms : List Migration} {known : List Ident} {todo : List Migration}
    (h : Covers ms known todo) (ascending : todo.Pairwise fun a b => a.id ≤ b.id) :
    InTurn (Preceded ms) known todo := by
  induction todo generalizing known with
  | nil => trivial
  | cons m rest ih =>
      obtain ⟨hfirst, hrest⟩ := List.pairwise_cons.mp ascending
      refine ⟨?_, ih h.rest hrest⟩
      intro _ g hg inside hless
      rcases h g hg inside with hknown | hmem | hbeyond
      · exact hknown
      · exfalso
        rcases List.mem_cons.mp hmem with rfl | hmem
        · exact Nat.lt_irrefl _ hless
        · exact Nat.not_le_of_lt hless (hfirst g hmem)
      · exact absurd (hbeyond m List.mem_cons_self) (Nat.lt_asymm hless)

theorem needed_covers (rows : List LedgerRow) (limit? : Option Ident) {ms found : List Migration}
    (perm : found.Perm ms) : Covers ms (rows.map (·.id)) (needed rows limit? found) := by
  intro g hg _
  by_cases hknown : g.id ∈ rows.map (·.id)
  · exact .inl hknown
  right
  have hpending : g ∈ pendingAmong rows found := by
    rw [pendingAmong, Migration.sortById, List.mem_mergeSort]
    refine List.mem_filter.mpr ⟨perm.mem_iff.mpr hg, ?_⟩
    simpa [List.mem_map] using hknown
  cases limit? with
  | none => exact .inl hpending
  | some limit =>
      by_cases hlimit : g.id ≤ limit
      · exact .inl (List.mem_filter.mpr ⟨hpending, decide_eq_true hlimit⟩)
      · right
        intro m hm
        have hm : m.id ≤ limit := of_decide_eq_true (List.mem_filter.mp hm).2
        exact Nat.lt_of_le_of_lt hm (Nat.lt_of_not_le hlimit)

/-- Whatever rows a run has seen, it takes the migrations of its directory in turn. -/
theorem needed_inTurn (rows : List LedgerRow) (limit? : Option Ident) {ms found : List Migration}
    (perm : found.Perm ms) :
    InTurn (Preceded ms) (rows.map (·.id)) (needed rows limit? found) :=
  (needed_covers rows limit? perm).inTurn (needed_ascending rows limit? found)

/-! ## All runs -/

/-- What the commits so far say about the rows: nothing smaller is missing. -/
structure InOrder (ms : List Migration) (v : View) : Prop where
  recorded : ∀ claim ∈ committedClaims v, v.Recorded claim.id
  preceded : ∀ claim ∈ committedClaims v, ∀ g ∈ ms, Transactional g → g.id < claim.id →
    v.Recorded g.id
  ascending : (committedClaims v).Pairwise fun a b => a.id < b.id

/-- Who is about to commit a migration has left none out. -/
def CommitsInOrder {σ α : Type} (engine : Engine σ) (ms : List Migration)
    (scene : Scene σ (Except Failure α)) : Prop :=
  ∀ tx next held, ⟨.ask (.commit tx) next, held⟩ ∈ scene.sessions →
    ∃ f ∈ ms, Transactional f ∧ (engine.view scene.store).opened tx = some (unitOf f) ∧
      ∀ g ∈ ms, Transactional g → g.id < f.id → (engine.view scene.store).Recorded g.id

namespace InOrder

variable {ms : List Migration} {v v' : View}

theorem start (h : v.committed = []) : InOrder ms v := by
  have hnone : committedClaims v = [] := by rw [committedClaims, h, List.flatMap_nil]
  exact ⟨by simp [hnone], by simp [hnone], by simp [hnone]⟩

theorem mono (h : InOrder ms v) (rows : v.ledger ⊆ v'.ledger)
    (claims : committedClaims v' = committedClaims v) : InOrder ms v' := by
  refine ⟨?_, ?_, ?_⟩ <;> rw [claims]
  · exact fun claim hclaim => (h.recorded claim hclaim).mono rows
  · exact fun claim hclaim g hg inside hless => (h.preceded claim hclaim g hg inside hless).mono rows
  · exact h.ascending

/-- A migration that is due and not recorded comes after all that have been committed. -/
theorem unit (h : InOrder ms v) {m : Migration} (hm : m ∈ ms) (inside : Transactional m)
    {known : List Ident} (seen : ∀ id ∈ known, v.Recorded id) (turn : Preceded ms known m)
    (free : ¬ v.Recorded m.id) (rows : v.ledger ++ [claimOf m] ⊆ v'.ledger)
    (claims : committedClaims v' = committedClaims v ++ [claimOf m]) : InOrder ms v' := by
  have hgrows : v.ledger ⊆ v'.ledger := List.Subset.trans (List.subset_append_left _ _) rows
  have hlast : ∀ claim ∈ committedClaims v, claim.id < m.id := by
    intro claim hclaim
    rcases Nat.lt_trichotomy claim.id.value m.id.value with hless | heq | hmore
    · exact hless
    · exact absurd (Ident.ext heq ▸ h.recorded claim hclaim) free
    · exact absurd (h.preceded claim hclaim m hm inside hmore) free
  refine ⟨?_, ?_, ?_⟩ <;> rw [claims]
  · intro claim hclaim
    rcases List.mem_append.mp hclaim with hclaim | hclaim
    · exact (h.recorded claim hclaim).mono hgrows
    · rw [List.mem_singleton.mp hclaim]
      exact ⟨claimOf m, rows (List.mem_append_right _ List.mem_cons_self), rfl⟩
  · intro claim hclaim g hg hinside hless
    rcases List.mem_append.mp hclaim with hclaim | hclaim
    · exact (h.preceded claim hclaim g hg hinside hless).mono hgrows
    · rw [List.mem_singleton.mp hclaim] at hless
      exact (seen g.id (turn g hg hinside hless)).mono hgrows
  · refine List.pairwise_append.mpr ⟨h.ascending, List.pairwise_singleton _ _, ?_⟩
    intro claim hclaim other hother
    rw [List.mem_singleton.mp hother]
    exact hlast claim hclaim

theorem progress {effect : Effect} (keeps : ∀ m ∈ ms, Effect.Keeps (effectOf effect m))
    (h : InOrder ms v) (hprogress : Progress (· ∈ ms) (Preceded ms) effect v v') :
    InOrder ms v' := by
  cases hprogress with
  | none rows works =>
      refine h.mono (fun _ hrow => rows.symm ▸ hrow) ?_
      rw [committedClaims, works, committedClaims]
  | @direct m play alone rows works =>
      refine h.mono (keeps _ play _ _ rows) ?_
      rw [committedClaims, works, List.flatMap_append]
      exact List.append_nil _
  | @unit m known play inside seen turn free rows works =>
      refine h.unit play inside seen turn free (keeps _ play _ _ rows) ?_
      rw [committedClaims, works, List.flatMap_append]
      rfl

end InOrder

theorem Coherent.commitsInOrder {σ α : Type} {engine : Engine σ} {ms : List Migration}
    {scene : Scene σ (Except Failure α)} (h : Coherent engine (· ∈ ms) (Preceded ms) scene) :
    CommitsInOrder engine ms scene := by
  intro tx next held hsession
  obtain ⟨st, hst⟩ := h.keeping _ hsession
  have hwork := hst.work tx
  have hknown := hst.known
  cases hst.meets.1 with
  | @commit known tx m play inside turn =>
      refine ⟨m, play, inside, hwork _ rfl, ?_⟩
      intro g hg hinside hless
      exact hknown g.id (turn g hg hinside hless)

def runsOver (dir : Path) (runs : List (Files.Sight × Option Ident)) :
    List (Files.Sight × Job) :=
  runs.map fun run => (run.1, .run dir run.2)

/-- Whatever steps some runs over one directory take, what they have committed ascends, and what
one of them commits next has nothing missing before it. -/
theorem committed_in_order {σ : Type} {engine : Engine σ} {effect : Effect}
    (honours : engine.Honours effect) {dir : Path} {ms : List Migration}
    (keeps : ∀ m ∈ ms, Effect.Keeps (effectOf effect m)) {runs : List (Files.Sight × Option Ident)}
    (unchanging : ∀ run ∈ runs, ∀ found, Directory.seen run.1 dir = .ok found → found.Perm ms)
    {s : σ} (possible : engine.possible s) (idle : ∀ tx, (engine.view s).opened tx = none)
    (new : (engine.view s).committed = []) {scene : Scene σ (Except Failure (Option Outcome))}
    (reaches : Scene.Reaches engine (opening s (runsOver dir runs)) scene) :
    CommitsInOrder engine ms scene ∧
      (committedClaims (engine.view scene.store)).Pairwise fun a b => a.id < b.id := by
  have hstart : Coherent engine (· ∈ ms) (Preceded ms) (opening s (runsOver dir runs)) := by
    refine .opening possible idle ?_ ?_
    · intro client hclient m hm
      obtain ⟨run, hrun, rfl⟩ := List.mem_map.mp hclient
      obtain ⟨found, hfound, hmem⟩ := hm
      exact (unchanging run hrun found hfound).mem_iff.mp hmem
    · intro client hclient
      obtain ⟨run, hrun, rfl⟩ := List.mem_map.mp hclient
      intro found hfound rows
      exact needed_inTurn rows run.2 (unchanging run hrun found hfound)
  have hprogress : ∀ v v', InOrder ms v → Progress (· ∈ ms) (Preceded ms) effect v v' →
      InOrder ms v' := fun v v' horder => horder.progress keeps
  obtain ⟨hcoherent, horder⟩ := hstart.reaches honours keeps hprogress (.start new) reaches
  exact ⟨hcoherent.commitsInOrder, horder.ascending⟩

/-! ## Two runs over one shelf -/

open Store (Memory)

def shelf : Files.Tree :=
  ⟨[([Text.octets "m"], .directory),
    ([Text.octets "1-one.sql", Text.octets "m"], .file (Text.octets "select 1;")),
    ([Text.octets "2-two.sql", Text.octets "m"], .file (Text.octets "select 2;"))], []⟩

def shelved : List Migration :=
  [⟨.ofText "m/1-one.sql", "1-one.sql", "select 1;", ⟨1, by decide⟩, "one", "1"⟩,
    ⟨.ofText "m/2-two.sql", "2-two.sql", "select 2;", ⟨2, by decide⟩, "two", "2"⟩]

/-- One run goes up to the first migration, the other up to the last. -/
def readers : List (Files.Sight × Option Ident) :=
  [(.ofTree shelf, none), (.ofTree shelf, some ⟨1, by decide⟩)]

def founded : Memory := .ofLedger (some [⟨.first, Bootstrap.slug⟩])

/-- Both have seen the ledger and taken turns since. -/
def midway : Scene Memory (Except Failure (Option Outcome)) :=
  (opening founded (runsOver (.ofText "m") readers)).turns
    Memory.answer [0, 1, 0, 0, 1, 0, 0, 0, 1, 0, 0]

def foundingRow : LedgerRow := ⟨.first, Bootstrap.slug, .epoch⟩

theorem founded_rows : Memory.answer .applied founded = (.ok [foundingRow], founded) := by
  simp [Memory.answer, Memory.rows, Memory.ofLedger, founded, foundingRow]

theorem shelf_seen : Directory.seen (.ofTree shelf) (.ofText "m") = .ok shelved := rfl

theorem midway_committed : committedClaims midway.store.view = [⟨⟨1, by decide⟩, "one"⟩] := by
  have hpending : pendingAmong [foundingRow] shelved = shelved := sortById_of_ascending (by decide)
  obtain ⟨next, hsession, hnext⟩ := Job.session_run shelf_seen none
  obtain ⟨next', hsession', hnext'⟩ := Job.session_run shelf_seen (some ⟨1, by decide⟩)
  have hopening : opening founded (runsOver (.ofText "m") readers) =
      ⟨founded, [⟨.ask .applied next, []⟩, ⟨.ask .applied next', []⟩]⟩ := by
    rw [← hsession, ← hsession']
    rfl
  have hread : ((opening founded (runsOver (.ofText "m") readers)).turn Memory.answer 0).turn
      Memory.answer 1 = ⟨founded,
        [⟨next (.ok [foundingRow]), []⟩, ⟨next' (.ok [foundingRow]), []⟩]⟩ := by
    rw [hopening]
    simp only [Scene.turn, List.getElem?_cons_zero, List.getElem?_cons_succ, List.set_cons_zero,
      List.set_cons_succ, founded_rows]
    rfl
  have hmidway : midway = (((opening founded (runsOver (.ofText "m") readers)).turn
      Memory.answer 0).turn Memory.answer 1).turns Memory.answer [0, 0, 1, 0, 0, 0, 1, 0, 0] := by
    rw [midway, Scene.turns, List.foldl_cons, List.foldl_cons]
    rfl
  rw [hnext, hnext', needed, needed, hpending] at hread
  -- Nothing is sorted after the ledger has been read, so the other turns can be evaluated.
  rw [hmidway, hread]
  decide +kernel

theorem committed_in_order_midway :
    committedClaims midway.store.view = [⟨⟨1, by decide⟩, "one"⟩] ∧
      CommitsInOrder Memory.engine shelved midway ∧
      (committedClaims midway.store.view).Pairwise fun a b => a.id < b.id := by
  have hkeeps : ∀ m ∈ shelved, Effect.Keeps (effectOf Memory.effect m) := by
    intro m hm
    have hplain : ∀ m ∈ shelved, m.content ≠ Bootstrap.sql := by decide
    have hleaves := effectOf_leaves (Memory.leaves_alone (hplain m hm)) (Memory.leaves_inside _)
    exact hleaves.keeps
  have hunchanging : ∀ run ∈ readers, ∀ found,
      Directory.seen run.1 (.ofText "m") = .ok found → found.Perm shelved := by
    intro run hrun found hfound
    have hsight : run.1 = .ofTree shelf := by
      rcases List.mem_cons.mp hrun with rfl | hrun
      · rfl
      · rw [List.mem_singleton.mp hrun]
    rw [hsight, shelf_seen] at hfound
    cases hfound
    exact List.Perm.refl _
  exact ⟨midway_committed, committed_in_order Memory.honours hkeeps hunchanging
    (Memory.ofLedger_sound (by simp)) (fun _ => rfl) rfl
    (Scene.turns_reaches (fun _ _ => rfl) _ _)⟩

end SchemaLedger.Apply
