import Mathlib.Data.List.Nodup
import SchemaLedger.Proofs.Store.Outlook

/-! # The store in memory keeps the contract

Seen without the numbers it has given out, the store in memory is a store as the contract
describes it. The bootstrap migration is the only text that changes its ledger. -/

namespace SchemaLedger.Store.Memory

def view (memory : Memory) : View where
  ledger := memory.ledger.getD []
  opened tx := memory.opened.lookup tx
  committed := memory.committed

/-- Only the bootstrap migration, run by itself, makes something of the ledger. -/
def effect : Effect where
  alone sql before after :=
    if sql = Bootstrap.sql then before = [] ∧ after = [⟨.first, Bootstrap.slug⟩]
    else after = before
  inside _ before after := after = before

/-- Numbers are given out in turn, there are no claims before there is a ledger, and a ledger has
had a row since it was created. -/
structure Sound (memory : Memory) : Prop where
  numbers : ∀ other ∈ memory.opened, other.1.number < memory.begun
  keys : (memory.opened.map (·.1)).Nodup
  claims : memory.ledger = none → ∀ other ∈ memory.opened, other.2.claims = []
  created : memory.ledger ≠ some []

def engine : Engine Memory := .ofHandler answer (fun tx memory => memory.close tx) view Sound

/-! ## The view of each change -/

theorem lookup_altered (opened : List (Tx × Work)) (tx other : Tx) (change : Work → Work) :
    (opened.map fun entry => if entry.1 = tx then (tx, change entry.2) else entry).lookup other =
      if other = tx then (opened.lookup tx).map change else opened.lookup other := by
  induction opened with
  | nil => simp
  | cons entry rest ih =>
      obtain ⟨key, work⟩ := entry
      rw [List.map_cons]
      by_cases hkey : key = tx
      · subst hkey
        rw [if_pos rfl, List.lookup_cons, ih]
        by_cases h : other = key
        · simp [h]
        · rw [beq_eq_false_iff_ne.mpr h, if_neg h, if_neg h, List.lookup_cons,
            beq_eq_false_iff_ne.mpr h]
      · rw [if_neg hkey, List.lookup_cons, ih, List.lookup_cons, List.lookup_cons]
        have htx : (tx == key) = false := beq_eq_false_iff_ne.mpr (Ne.symm hkey)
        rw [htx]
        by_cases h : other = key
        · subst h
          simp [hkey]
        · rw [beq_eq_false_iff_ne.mpr h]

theorem lookup_closed (opened : List (Tx × Work)) (tx other : Tx) :
    (opened.filter fun entry => entry.1 ≠ tx).lookup other =
      if other = tx then none else opened.lookup other := by
  induction opened with
  | nil => simp
  | cons entry rest ih =>
      obtain ⟨key, work⟩ := entry
      by_cases hkey : key = tx
      · subst hkey
        rw [List.filter_cons_of_neg (by simp), ih]
        by_cases h : other = key
        · simp [h]
        · rw [if_neg h, if_neg h, List.lookup_cons, beq_eq_false_iff_ne.mpr h]
      · rw [List.filter_cons_of_pos (by simpa using hkey), List.lookup_cons, ih, List.lookup_cons]
        by_cases h : other = key
        · subst h
          simp [hkey]
        · rw [beq_eq_false_iff_ne.mpr h]

theorem view_alter (memory : Memory) (tx : Tx) (change : Work → Work) :
    (memory.alter tx change).view = memory.view.alter tx ((memory.view.opened tx).map change) := by
  simp only [view, alter, View.alter, View.mk.injEq, true_and, and_true]
  funext other
  rw [lookup_altered, Function.update_apply]

theorem view_close (memory : Memory) (tx : Tx) :
    (memory.close tx).view = memory.view.alter tx none := by
  simp only [view, close, View.alter, View.mk.injEq, true_and, and_true]
  funext other
  rw [lookup_closed, Function.update_apply]

theorem view_begin (memory : Memory) (tx : Tx) (fresh : memory.view.opened tx = none) :
    ({ memory with opened := memory.opened ++ [(tx, .empty)], begun := memory.begun + 1 } :
      Memory).view = memory.view.alter tx (some .empty) := by
  simp only [view, View.alter, View.mk.injEq, true_and, and_true]
  funext other
  rw [List.lookup_append, Function.update_apply]
  by_cases h : other = tx
  · subst h
    have hnone : memory.opened.lookup other = none := fresh
    simp [hnone]
  · simp [h, List.lookup_cons, beq_eq_false_iff_ne.mpr h]

theorem holds_of_taken {memory : Memory} {tx : Tx} {id : Ident} (h : memory.view.Taken tx id) :
    memory.holds id = true := by
  simp only [holds, Bool.or_eq_true, List.any_eq_true, decide_eq_true_eq]
  rcases h with hrecorded | ⟨other, _, work, hwork, hclaim⟩
  · exact .inl hrecorded
  · obtain ⟨front, back, hopened, _⟩ := List.lookup_eq_some_iff.mp hwork
    exact .inr ⟨(other, work), by simp [hopened], hclaim⟩

theorem mem_opened {memory : Memory} {tx : Tx} {work : Work}
    (h : memory.view.opened tx = some work) : (tx, work) ∈ memory.opened := by
  obtain ⟨front, back, hopened, _⟩ := List.lookup_eq_some_iff.mp h
  simp [hopened]

namespace Sound

variable {memory : Memory} (h : memory.Sound)

include h

theorem fresh : memory.view.opened ⟨memory.begun⟩ = none := by
  cases hwork : memory.view.opened ⟨memory.begun⟩ with
  | none => rfl
  | some work => exact absurd (h.numbers _ (mem_opened hwork)) (Nat.lt_irrefl _)

theorem alter {tx : Tx} {change : Work → Work}
    (empty : memory.ledger = none → ∀ work, work.claims = [] → (change work).claims = []) :
    (memory.alter tx change).Sound := by
  have hmem : ∀ other ∈ (memory.alter tx change).opened, ∃ old ∈ memory.opened,
      other.1 = old.1 ∧ (other.2 = old.2 ∨ other.2 = change old.2) := by
    intro other hother
    obtain ⟨old, hold, rfl⟩ := List.mem_map.mp hother
    refine ⟨old, hold, ?_⟩
    split
    · next heq => exact ⟨heq.symm, .inr rfl⟩
    · exact ⟨rfl, .inl rfl⟩
  have hkeys : (memory.alter tx change).opened.map (·.1) = memory.opened.map (·.1) := by
    rw [Memory.alter, List.map_map]
    refine List.map_congr_left ?_
    intro other _
    by_cases heq : other.1 = tx <;> simp [heq]
  refine ⟨?_, hkeys ▸ h.keys, ?_, h.created⟩
  · intro other hother
    obtain ⟨old, hold, hnumber, _⟩ := hmem other hother
    rw [hnumber]
    exact h.numbers old hold
  · intro hnone other hother
    obtain ⟨old, hold, _, hwork | hwork⟩ := hmem other hother
    · rw [hwork]
      exact h.claims hnone old hold
    · rw [hwork]
      exact empty hnone old.2 (h.claims hnone old hold)

theorem close (tx : Tx) : (memory.close tx).Sound where
  numbers := fun other hother => h.numbers other (List.mem_filter.mp hother).1
  keys := h.keys.sublist (List.filter_sublist.map _)
  claims := fun hnone other hother => h.claims hnone other (List.mem_filter.mp hother).1
  created := h.created

/-- Without a ledger no transaction holds anything. -/
theorem not_heldBeside (hnone : memory.ledger = none) (tx? : Option Tx) (id : Ident) :
    ¬ memory.view.HeldBeside tx? id := by
  rintro ⟨other, _, work, hwork, claim, hclaim, _⟩
  rw [h.claims hnone _ (mem_opened hwork)] at hclaim
  cases hclaim

end Sound

theorem ofLedger_sound {ledger : Option (List Claim)} (created : ledger ≠ some []) :
    (ofLedger ledger).Sound :=
  ⟨nofun, List.nodup_nil, nofun, created⟩

/-! ## Calls -/

theorem rows_perm (claims : List Claim) :
    ((rows claims).map fun row => (⟨row.id, row.slug⟩ : Claim)).Perm claims := by
  rw [rows, List.map_map]
  have hid : ((fun row : LedgerRow => (⟨row.id, row.slug⟩ : Claim)) ∘ fun claim : Claim =>
      (⟨claim.id, claim.slug, .epoch⟩ : LedgerRow)) = id := rfl
  rw [hid, List.map_id]
  exact List.mergeSort_perm claims _

theorem leaves_inside (sql : String) : Effect.Leaves (effect.inside sql) := fun _ _ h => h

theorem leaves_alone {sql : String} (h : sql ≠ Bootstrap.sql) :
    Effect.Leaves (effect.alone sql) := by
  intro before after hrows
  simpa only [effect, if_neg h] using hrows

theorem chain_effect (bodies : List String) (claims : List Claim) :
    Effect.Chain effect bodies claims claims := by
  induction bodies with
  | nil => rfl
  | cons sql rest ih => exact ⟨claims, rfl, ih⟩

theorem spared_refl (v : View) (tx? : Option Tx) (claims : List Claim) :
    v.Spared tx? claims claims := fun _ hclaim => .inl hclaim

theorem execute_permits {memory : Memory} (h : memory.Sound) (sql : String) :
    (memory.execute sql).2.Sound ∧
      Permits effect (.execute sql) memory.view (memory.execute sql).1
        (memory.execute sql).2.view := by
  rw [execute]
  split
  · exact ⟨h, rfl⟩
  · split
    · next hsql =>
        split
        · exact ⟨h, rfl⟩
        · next hnone =>
            have hrows : memory.view.ledger = [] := by simp [view, hnone]
            refine ⟨⟨h.numbers, h.keys, nofun, by simp⟩, [⟨.first, Bootstrap.slug⟩], ?_, ?_, rfl⟩
            · simp [effect, hsql, hrows]
            · intro claim _
              exact .inr (h.not_heldBeside hnone none claim.id)
    · next hsql =>
        refine ⟨⟨h.numbers, h.keys, h.claims, h.created⟩, memory.view.ledger, ?_,
          spared_refl _ _ _, rfl⟩
        simp only [effect, if_neg hsql]

theorem claim_permits {memory : Memory} (h : memory.Sound) {tx : Tx} {work : Work}
    (hwork : memory.view.opened tx = some work) (id : Ident) (slug : String) :
    (memory.claim tx id slug).2.Sound ∧
      Permits effect (.claim tx id slug) memory.view (memory.claim tx id slug).1
        (memory.claim tx id slug).2.view := by
  rw [claim]
  split
  · exact ⟨h, rfl⟩
  · next hsome =>
      split
      · exact ⟨h, rfl⟩
      · next hfree =>
          have hsound : (memory.alter tx (·.claim ⟨id, slug⟩)).Sound := by
            refine h.alter ?_
            intro hnone
            exact absurd (by simp [hnone]) hsome
          refine ⟨hsound, fun htaken => hfree (holds_of_taken htaken), work, hwork, ?_⟩
          rw [view_alter, hwork]
          rfl

theorem executeIn_permits {memory : Memory} (h : memory.Sound) {tx : Tx} {work : Work}
    (hwork : memory.view.opened tx = some work) (sql : String) :
    (memory.executeIn tx sql).2.Sound ∧
      Permits effect (.executeIn tx sql) memory.view (memory.executeIn tx sql).1
        (memory.executeIn tx sql).2.view := by
  rw [executeIn]
  split
  · exact ⟨h, rfl⟩
  · have hsound : (memory.alter tx (·.perform sql)).Sound :=
      h.alter fun _ _ hclaims => hclaims
    refine ⟨hsound, work, hwork, ?_⟩
    rw [view_alter, hwork]
    rfl

theorem commit_permits {memory : Memory} (h : memory.Sound) {tx : Tx} {work : Work}
    (hwork : memory.view.opened tx = some work) :
    (memory.commit tx).Sound ∧
      Permits effect (.commit tx) memory.view (.ok ()) (memory.commit tx).view := by
  have hfound : memory.workOf tx = work := by
    have hlookup : memory.opened.lookup tx = some work := hwork
    simp [workOf, hlookup]
  have hrows : (memory.commit tx).view.ledger = memory.view.ledger ++ work.claims := by
    cases hledger : memory.ledger with
    | none =>
        have hclaims : work.claims = [] := h.claims hledger _ (mem_opened hwork)
        simp [view, commit, hledger, hclaims]
    | some claims => simp [view, commit, hledger, hfound]
  have hclosed := h.close tx
  refine ⟨⟨hclosed.numbers, hclosed.keys, ?_, ?_⟩, work, _, hwork, chain_effect _ _,
    spared_refl _ _ _, ?_⟩
  · intro hnone
    exact hclosed.claims (by simpa [commit, close] using hnone)
  · intro hnew
    obtain ⟨claims, hledger, hrows⟩ := Option.map_eq_some_iff.mp hnew
    exact h.created (by rw [hledger, (List.append_eq_nil_iff.mp hrows).1])
  · have hview := view_close memory tx
    simp only [view, View.alter, View.mk.injEq] at hview ⊢
    exact ⟨hrows, hview.2.1, by simp [commit, keep, hfound, close]⟩

theorem answer_permits {memory : Memory} (h : memory.Sound) (call : Call)
    (ready : engine.Ready call memory) :
    (Memory.answer call memory).2.Sound ∧
      Permits effect call memory.view (Memory.answer call memory).1
        (Memory.answer call memory).2.view := by
  cases call with
  | applied =>
      simp only [Memory.answer]
      split
      · exact ⟨h, rfl⟩
      · next claims hledger =>
          refine ⟨h, ?_, rfl⟩
          simpa [view, hledger] using rows_perm claims
  | execute sql => exact execute_permits h sql
  | begin =>
      refine ⟨⟨?_, ?_, ?_, h.created⟩, h.fresh, view_begin memory _ h.fresh⟩
      · intro other hother
        rcases List.mem_append.mp hother with hother | hother
        · exact Nat.lt_succ_of_lt (h.numbers other hother)
        · rw [List.mem_singleton.mp hother]
          exact Nat.lt_succ_self _
      · simp only [Memory.answer, List.map_append]
        refine h.keys.append (List.nodup_singleton _) ?_
        simp only [List.map_cons, List.map_nil, List.disjoint_singleton, List.mem_map, not_exists,
          not_and]
        intro other hother heq
        exact absurd (h.numbers other hother) (by simp [heq])
      · intro hnone other hother
        rcases List.mem_append.mp hother with hother | hother
        · exact h.claims hnone other hother
        · rw [List.mem_singleton.mp hother]
          rfl
  | claim tx id slug =>
      obtain ⟨work, hwork⟩ := ready tx rfl
      exact claim_permits h hwork id slug
  | executeIn tx sql =>
      obtain ⟨work, hwork⟩ := ready tx rfl
      exact executeIn_permits h hwork sql
  | commit tx =>
      obtain ⟨work, hwork⟩ := ready tx rfl
      exact commit_permits h hwork
  | rollback tx => exact ⟨h.close tx, view_close memory tx⟩

theorem claim_of_taken {memory : Memory} (h : memory.Sound) {tx : Tx} {id : Ident}
    (htaken : memory.view.Taken tx id) (slug : String) :
    (memory.claim tx id slug).1 = .error (taken id) := by
  have hsome : memory.ledger.isNone = false := by
    cases hledger : memory.ledger with
    | some claims => rfl
    | none =>
        exfalso
        rcases htaken with ⟨claim, hclaim, _⟩ | hbeside
        · simp [view, hledger] at hclaim
        · exact h.not_heldBeside hledger _ id hbeside
  simp [claim, hsome, holds_of_taken htaken]

theorem honours : engine.Honours effect where
  answers := by
    intro call s s' answer hs ready hanswer
    have h := answer_permits hs call ready
    rw [show Memory.answer call s = (answer, s') from hanswer] at h
    exact h
  refuses := by
    intro tx id slug s s' answer hs _ htaken hanswer
    have h := claim_of_taken hs htaken slug
    have hclaim : s.claim tx id slug = (answer, s') := hanswer
    rw [hclaim] at h
    exact ⟨_, h⟩
  drops := by
    intro tx s s' hs hdrop
    cases hdrop
    exact ⟨hs.close tx, view_close s tx⟩

/-! ## Verdicts -/

section Verdicts

variable {o : Outlook} {work? : Option (Tx × Work)} {s : Memory} (h : engine.Amid o work? s)

include h

/-- The outlook tells whether there is a ledger. -/
theorem ledger_of_amid : s.ledger = if o.ledger = [] then none else some o.ledger := by
  have hrows : s.ledger.getD [] = o.ledger := by
    have hview : s.view = o.view work? := h.view
    cases work? <;> exact congrArg View.ledger hview
  cases hledger : s.ledger with
  | none =>
      have hnew : o.ledger = [] := by rw [← hrows, hledger]; rfl
      rw [if_pos hnew]
  | some claims =>
      rw [hledger] at hrows
      have hnew : o.ledger ≠ [] := by
        rintro heq
        exact h.possible.created (by rw [hledger, show claims = [] from hrows.trans heq])
      rw [if_neg hnew, ← hrows]
      rfl

theorem opened_of_amid : s.opened = work?.toList := by
  have hlookup : ∀ tx, s.opened.lookup tx = (o.view work?).opened tx :=
    fun tx => congrFun (congrArg View.opened h.view) tx
  have hkeys := h.possible.keys
  cases hopened : s.opened with
  | nil =>
      cases work? with
      | none => rfl
      | some held =>
          obtain ⟨tx, work⟩ := held
          have hnone := hlookup tx
          rw [hopened, o.view_opened] at hnone
          cases hnone
  | cons entry rest =>
      have hown : ∀ other ∈ entry :: rest, ∃ work, work? = some (other.1, work) := by
        intro other hother
        have hfound : (s.opened.lookup other.1).isSome := by
          rw [hopened, List.lookup_isSome_iff]
          exact ⟨other, hother, beq_self_eq_true _⟩
        rw [hlookup] at hfound
        cases work? with
        | none => cases hfound
        | some held =>
            obtain ⟨tx, work⟩ := held
            by_cases heq : other.1 = tx
            · exact ⟨work, by rw [heq]⟩
            · simp [Outlook.view, Function.update_of_ne heq] at hfound
      obtain ⟨work, rfl⟩ := hown entry List.mem_cons_self
      have hwork : entry.2 = work := by
        have hfirst := hlookup entry.1
        rw [hopened, o.view_opened, List.lookup_cons_self] at hfirst
        exact Option.some.inj hfirst
      have hrest : rest = [] := by
        refine List.eq_nil_iff_forall_not_mem.mpr ?_
        intro other hother
        obtain ⟨_, hsame⟩ := hown other (List.mem_cons_of_mem entry hother)
        have hkey : entry.1 = other.1 := (Prod.mk.inj (Option.some.inj hsame)).1
        rw [hopened, List.map_cons] at hkeys
        exact (List.nodup_cons.mp hkeys).1 (hkey ▸ List.mem_map_of_mem hother)
      rw [hrest, ← hwork]
      rfl

end Verdicts

theorem holds_of_amid {o : Outlook} {work? : Option Work} {tx tx' : Tx} {s t : Memory}
    (hs : engine.Amid o (work?.map (tx, ·)) s) (ht : engine.Amid o (work?.map (tx', ·)) t)
    (id : Ident) : s.holds id = t.holds id := by
  rw [holds, holds, ledger_of_amid hs, ledger_of_amid ht, opened_of_amid hs, opened_of_amid ht]
  cases work? <;> rfl

/-- The names of transactions do not matter. -/
theorem verdict_of_amid {o : Outlook} {work? : Option Work} {tx tx' : Tx} {s t : Memory}
    (hs : engine.Amid o (work?.map (tx, ·)) s) (ht : engine.Amid o (work?.map (tx', ·)) t)
    (call : Call) :
    (call.on tx).succeeded (Memory.answer (call.on tx) s).1 =
      (call.on tx').succeeded (Memory.answer (call.on tx') t).1 := by
  have hledger : s.ledger = t.ledger := (ledger_of_amid hs).trans (ledger_of_amid ht).symm
  cases call with
  | applied =>
      simp only [Call.on, Memory.answer, hledger]
      cases t.ledger <;> rfl
  | execute sql =>
      simp only [Call.on, Memory.answer, execute, hledger]
      split
      · rfl
      · split
        · cases t.ledger <;> rfl
        · rfl
  | begin => rfl
  | claim own id slug =>
      simp only [Call.on, Memory.answer, claim, hledger, holds_of_amid hs ht id]
      split
      · rfl
      · split <;> rfl
  | executeIn own sql =>
      simp only [Call.on, Memory.answer, executeIn]
      split <;> rfl
  | commit own => rfl
  | rollback own => rfl

theorem dependable : engine.Dependable where
  verdict := by
    intro o work? call tx tx' s t answer answer' s' t' hs ht hanswer hanswer' hsucceeded
    have hverdict := verdict_of_amid hs ht call
    rw [show Memory.answer (call.on tx) s = (answer, s') from hanswer,
      show Memory.answer (call.on tx') t = (answer', t') from hanswer'] at hverdict
    exact hverdict ▸ hsucceeded
  reads := by
    intro o s s' answer hs hanswer
    have hledger := ledger_of_amid hs
    have hanswer : Memory.answer .applied s = (answer, s') := hanswer
    by_cases hnone : o.ledger = []
    · rw [if_pos hnone] at hledger
      simp only [Memory.answer, hledger] at hanswer
      exact .inr ⟨(congrArg Prod.fst hanswer).symm, hnone⟩
    · rw [if_neg hnone] at hledger
      simp only [Memory.answer, hledger] at hanswer
      exact .inl ⟨_, (congrArg Prod.fst hanswer).symm⟩

end SchemaLedger.Store.Memory
