import SchemaLedger.Proofs.Store.Scene
import SchemaLedger.Proofs.Surroundings

/-! # A store to oneself

While one session has a store to itself, the store is known by what lasts of it and by the work of
the only open transaction. What a call makes of these follows from the contract. -/

namespace SchemaLedger.Store

def Call.on (tx : Tx) : Call → Call
  | .claim _ id slug => .claim tx id slug
  | .executeIn _ sql => .executeIn tx sql
  | .commit _ => .commit tx
  | .rollback _ => .rollback tx
  | call => call

def Call.succeeded : (call : Call) → call.Answer → Bool
  | .applied, answer => answer.isOk
  | .execute _, answer => answer.isOk
  | .begin, answer => answer.isOk
  | .claim .., answer => answer.isOk
  | .executeIn .., answer => answer.isOk
  | .commit _, answer => answer.isOk
  | .rollback _, answer => answer.isOk

/-- What lasts of a store. -/
structure Outlook where
  ledger : List Claim
  committed : List Work

namespace Outlook

def Recorded (o : Outlook) (id : Ident) : Prop := ∃ claim ∈ o.ledger, claim.id = id

theorem Recorded.mono {o o' : Outlook} {id : Ident} (h : o.Recorded id)
    (sub : o.ledger ⊆ o'.ledger) : o'.Recorded id := by
  obtain ⟨claim, hclaim, hid⟩ := h
  exact ⟨claim, sub hclaim, hid⟩

/-- What is seen of a store in which nothing is open but one transaction, if any. -/
def view (o : Outlook) : Option (Tx × Work) → View
  | none => ⟨o.ledger, fun _ => none, o.committed⟩
  | some (tx, work) => ⟨o.ledger, Function.update (fun _ => none) tx (some work), o.committed⟩

variable (o : Outlook) (tx : Tx) (work : Work)

theorem view_open : (o.view none).alter tx (some work) = o.view (some (tx, work)) := rfl

theorem view_work (new : Work) :
    (o.view (some (tx, work))).alter tx (some new) = o.view (some (tx, new)) := by
  simp only [View.alter, view, Function.update_idem]

theorem view_close : (o.view (some (tx, work))).alter tx none = o.view none := by
  simp only [View.alter, view, Function.update_idem, Function.update_eq_self]

@[simp] theorem view_opened : (o.view (some (tx, work))).opened tx = some work := by
  simp only [view, Function.update_self]

theorem view_recorded (work? : Option (Tx × Work)) (id : Ident) :
    (o.view work?).Recorded id ↔ o.Recorded id := by
  cases work? <;> rfl

end Outlook

variable {σ : Type} (engine : Engine σ)

/-- The store as the only session knows it. -/
structure Engine.Amid (o : Outlook) (work? : Option (Tx × Work)) (s : σ) : Prop where
  possible : engine.possible s
  view : engine.view s = o.view work?

def View.outlook (v : View) : Outlook := ⟨v.ledger, v.committed⟩

theorem Engine.Amid.of_idle {engine : Engine σ} {s : σ} (possible : engine.possible s)
    (idle : ∀ tx, (engine.view s).opened tx = none) :
    engine.Amid (engine.view s).outlook none s := by
  refine ⟨possible, ?_⟩
  have hnone : (engine.view s).opened = fun _ => none := funext idle
  rw [View.outlook, Outlook.view, ← hnone]

def heldBy (work? : Option (Tx × Work)) : List Tx := (work?.map (·.1)).toList

/-- A store that decides by what lasts of it and by the work of the only open transaction whether
a call succeeds, whatever the transaction is called, and that can be read. -/
structure Engine.Dependable : Prop where
  verdict : ∀ {o : Outlook} {work? : Option Work} {call : Call} {tx tx' : Tx} {s t : σ}
    {answer : (call.on tx).Answer} {answer' : (call.on tx').Answer} {s' t' : σ},
    engine.Amid o (work?.map (tx, ·)) s → engine.Amid o (work?.map (tx', ·)) t →
    engine.answers (call.on tx) s answer s' → engine.answers (call.on tx') t answer' t' →
    (call.on tx).succeeded answer → (call.on tx').succeeded answer'
  reads : ∀ {o : Outlook} {s s' : σ} {answer : Except StoreError (List LedgerRow)},
    engine.Amid o none s → engine.answers .applied s answer s' →
    (∃ rows, answer = .ok rows) ∨ (answer = .error .tableMissing ∧ o.ledger = [])

/-- The store itself has once let a call succeed. -/
def Engine.Succeeds (o : Outlook) (work? : Option Work) (call : Call) : Prop :=
  ∃ tx s, ∃ answer : (call.on tx).Answer, ∃ s', engine.Amid o (work?.map (tx, ·)) s ∧
    engine.answers (call.on tx) s answer s' ∧ (call.on tx).succeeded answer

variable {engine} {effect : Effect}

theorem Engine.Dependable.again (h : engine.Dependable) {o : Outlook} {work? : Option Work}
    {call : Call} (once : engine.Succeeds o work? call) {tx : Tx} {s s' : σ}
    {answer : (call.on tx).Answer} (amid : engine.Amid o (work?.map (tx, ·)) s)
    (hanswer : engine.answers (call.on tx) s answer s') : (call.on tx).succeeded answer := by
  obtain ⟨tx₀, s₀, answer₀, s₀', hamid, hbefore, hsucceeded⟩ := once
  exact h.verdict hamid amid hbefore hanswer hsucceeded

/-! ## Replies -/

namespace Engine.Amid

variable (honours : engine.Honours effect) {o : Outlook} {s s' : σ}

include honours

theorem permits {work? : Option (Tx × Work)} (h : engine.Amid o work? s) {call : Call}
    (own : ∀ tx, call.tx? = some tx → ∃ work, work? = some (tx, work)) {answer : call.Answer}
    (hreply : engine.Replies call s answer s') :
    engine.possible s' ∧ Permits effect call (o.view work?) answer (engine.view s') := by
  have hready : engine.Ready call s := by
    intro tx hown
    obtain ⟨work, rfl⟩ := own tx hown
    exact ⟨work, by rw [h.view, o.view_opened]⟩
  exact h.view ▸ honours.replies h.possible hready hreply

theorem applied (h : engine.Amid o none s) {answer : Except StoreError (List LedgerRow)}
    (hreply : engine.Replies .applied s answer s') :
    engine.Amid o none s' ∧ ∀ rows, answer = .ok rows →
      (rows.map fun row => (⟨row.id, row.slug⟩ : Claim)).Perm o.ledger := by
  obtain ⟨hpossible, hpermits⟩ := h.permits honours (by intro tx hown; cases hown) hreply
  cases answer with
  | error error => exact ⟨⟨hpossible, hpermits⟩, nofun⟩
  | ok rows =>
      refine ⟨⟨hpossible, hpermits.2⟩, ?_⟩
      rintro _ ⟨⟩
      exact hpermits.1

theorem execute (h : engine.Amid o none s) {sql : String} {answer : Except StoreError Unit}
    (hreply : engine.Replies (.execute sql) s answer s') :
    match answer with
    | .ok () => ∃ after, effect.alone sql o.ledger after ∧
        engine.Amid ⟨after, o.committed ++ [.direct sql]⟩ none s'
    | .error _ => engine.Amid o none s' := by
  obtain ⟨hpossible, hpermits⟩ := h.permits honours (by intro tx hown; cases hown) hreply
  cases answer with
  | error error => exact ⟨hpossible, hpermits⟩
  | ok =>
      obtain ⟨after, hrows, _, hview⟩ := hpermits
      exact ⟨after, hrows, hpossible, hview⟩

theorem begin (h : engine.Amid o none s) {answer : Except StoreError Tx}
    (hreply : engine.Replies .begin s answer s') :
    match answer with
    | .ok tx => engine.Amid o (some (tx, .empty)) s'
    | .error _ => engine.Amid o none s' := by
  obtain ⟨hpossible, hpermits⟩ := h.permits honours (by intro tx hown; cases hown) hreply
  cases answer with
  | error error => exact ⟨hpossible, hpermits⟩
  | ok tx => exact ⟨hpossible, hpermits.2.trans (o.view_open tx .empty)⟩

variable {tx : Tx} {work : Work} (h : engine.Amid o (some (tx, work)) s)

include h

theorem claim {id : Ident} {slug : String} {answer : Except StoreError Unit}
    (hreply : engine.Replies (.claim tx id slug) s answer s') :
    match answer with
    | .ok () => ¬ o.Recorded id ∧ engine.Amid o (some (tx, work.claim ⟨id, slug⟩)) s'
    | .error _ => engine.Amid o (some (tx, work)) s' := by
  obtain ⟨hpossible, hpermits⟩ := h.permits honours (by rintro _ ⟨⟩; exact ⟨work, rfl⟩) hreply
  cases answer with
  | error error => exact ⟨hpossible, hpermits⟩
  | ok =>
      obtain ⟨hfree, found, hfound, hview⟩ := hpermits
      rw [o.view_opened] at hfound
      cases hfound
      exact ⟨fun hrecorded => hfree (.inl ((o.view_recorded _ id).mpr hrecorded)), hpossible,
        hview.trans (o.view_work tx work _)⟩

theorem executeIn {sql : String} {answer : Except StoreError Unit}
    (hreply : engine.Replies (.executeIn tx sql) s answer s') :
    match answer with
    | .ok () => engine.Amid o (some (tx, work.perform sql)) s'
    | .error _ => engine.Amid o (some (tx, work)) s' := by
  obtain ⟨hpossible, hpermits⟩ := h.permits honours (by rintro _ ⟨⟩; exact ⟨work, rfl⟩) hreply
  cases answer with
  | error error => exact ⟨hpossible, hpermits⟩
  | ok =>
      obtain ⟨found, hfound, hview⟩ := hpermits
      rw [o.view_opened] at hfound
      cases hfound
      exact ⟨hpossible, hview.trans (o.view_work tx work _)⟩

theorem commit {answer : Except StoreError Unit}
    (hreply : engine.Replies (.commit tx) s answer s') :
    match answer with
    | .ok () => ∃ after, effect.Chain work.bodies (o.ledger ++ work.claims) after ∧
        engine.Amid ⟨after, o.committed ++ [work]⟩ none s'
    | .error _ => engine.Amid o none s' := by
  obtain ⟨hpossible, hpermits⟩ := h.permits honours (by rintro _ ⟨⟩; exact ⟨work, rfl⟩) hreply
  cases answer with
  | error error => exact ⟨hpossible, hpermits.trans (o.view_close tx work)⟩
  | ok =>
      obtain ⟨found, after, hfound, hrows, _, hview⟩ := hpermits
      rw [o.view_opened] at hfound
      cases hfound
      refine ⟨after, hrows, hpossible, ?_⟩
      rw [hview, o.view_close tx work]
      rfl

theorem rollback {answer : Except StoreError Unit}
    (hreply : engine.Replies (.rollback tx) s answer s') : engine.Amid o none s' := by
  obtain ⟨hpossible, hpermits⟩ := h.permits honours (by rintro _ ⟨⟩; exact ⟨work, rfl⟩) hreply
  exact ⟨hpossible, hpermits.trans (o.view_close tx work)⟩

end Engine.Amid

/-- A session that is dropped leaves what lasts of the store. -/
theorem Engine.Amid.dropped (honours : engine.Honours effect) {o : Outlook}
    {work? : Option (Tx × Work)} {s s' : σ} (h : engine.Amid o work? s)
    (hdrop : engine.DropsAll (heldBy work?) s s') : engine.Amid o none s' := by
  cases work? with
  | none => cases hdrop; exact h
  | some held =>
      obtain ⟨tx, work⟩ := held
      obtain ⟨between, hfirst, rfl⟩ := hdrop
      obtain ⟨hpossible, hview⟩ := honours.drops h.possible hfirst
      exact ⟨hpossible, by rw [hview, h.view, o.view_close tx work]⟩

/-! ## Sessions -/

/-- Surroundings of a session that has the store to itself. Wherever it may make a call, it may as
well be dropped. -/
def soleSession (replies : (call : Call) → σ → call.Answer → σ → Prop)
    (safe : σ → List Tx → Prop) : Surroundings calls (σ × List Tx) where
  allows here _ := safe here.1 here.2
  answers here call answer there :=
    replies call here.1 answer there.1 ∧ there.2 = call.heldAfter answer here.2

section Sessions

variable {α : Type} {replies : (call : Call) → σ → call.Answer → σ → Prop}
variable {safe : σ → List Tx → Prop} {p : Program calls α} {ends : α → σ × List Tx → Prop}
variable {s s' : σ} {held : List Tx}

theorem soleSession_run {handle : Handler calls σ}
    (h : Program.Meets (soleSession replies safe) p ends (s, held))
    (answers : ∀ call s, replies call s (handle call s).1 (handle call s).2) :
    ∃ held', ends (Program.run handle p s).1 ((Program.run handle p s).2, held') := by
  induction p generalizing s held with
  | done value => exact ⟨held, h⟩
  | ask call next ih =>
      rw [Program.run_ask]
      exact ih _ (h.2 _ ((handle call s).2, _) ⟨answers call s, rfl⟩)

private theorem append_cons_eq_singleton {β : Type} {front back : List β} {x y : β}
    (h : front ++ x :: back = [y]) : front = [] ∧ x = y ∧ back = [] := by
  cases front with
  | nil => simpa using h
  | cons z rest => simp at h

/-- A scene of one session that keeps to its surroundings, or of none any more. -/
def SoleScene (engine : Engine σ) (safe : σ → List Tx → Prop) (ends : α → σ × List Tx → Prop)
    (scene : Scene σ α) : Prop :=
  (∃ p held, scene.sessions = [⟨p, held⟩] ∧
    Program.Meets (soleSession engine.Replies safe) p ends (scene.store, held)) ∨
  (scene.sessions = [] ∧ ∃ t held, safe t held ∧ engine.DropsAll held t scene.store)

theorem SoleScene.step (atEnd : ∀ value t held, ends value (t, held) → safe t held)
    {a b : Scene σ α} (h : SoleScene engine safe ends a) (hstep : Scene.Step engine a b) :
    SoleScene engine safe ends b := by
  cases hstep with
  | called hreply =>
      rcases h with ⟨p, own, hsessions, hmeets⟩ | ⟨hnone, _⟩
      · obtain ⟨rfl, hsession, rfl⟩ := append_cons_eq_singleton hsessions
        cases hsession
        exact .inl ⟨_, _, rfl, hmeets.2 _ (_, _) ⟨hreply, rfl⟩⟩
      · simp at hnone
  | dropped hdrop =>
      rcases h with ⟨p, own, hsessions, hmeets⟩ | ⟨hnone, _⟩
      · obtain ⟨rfl, rfl, rfl⟩ := append_cons_eq_singleton hsessions
        refine .inr ⟨rfl, _, _, ?_, hdrop⟩
        cases p with
        | done value => exact atEnd value _ _ hmeets
        | ask call next => exact hmeets.1
      · simp at hnone

/-- A session that is over, or was dropped on the way, has been safe at the last. -/
theorem soleSession_reaches
    (h : Program.Meets (soleSession engine.Replies safe) p ends (s, held))
    (atEnd : ∀ value t held, ends value (t, held) → safe t held)
    (reaches : Scene.Reaches engine ⟨s, [⟨p, held⟩]⟩ ⟨s', []⟩) :
    ∃ t held', safe t held' ∧ engine.DropsAll held' t s' := by
  have hstart : SoleScene engine safe ends ⟨s, [⟨p, held⟩]⟩ := .inl ⟨p, held, rfl, h⟩
  rcases reaches.keeps hstart fun a b => SoleScene.step atEnd with ⟨_, _, hsessions, _⟩ | ⟨_, hsafe⟩
  · cases hsessions
  · exact hsafe

end Sessions

end SchemaLedger.Store
