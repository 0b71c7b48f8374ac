import Mathlib.Logic.Relation
import SchemaLedger.Proofs.Store.Claims

/-! # Sessions that share a store

Programs talk to one store, their calls in any order. Any call may fail, and a session may be
dropped between two calls; then its transactions are dropped with it. -/

namespace SchemaLedger.Store

/-- What is left of a program, and the transactions it has begun and not ended. -/
structure Session (α : Type) where
  rest : Program calls α
  held : List Tx

def Call.heldAfter : (call : Call) → call.Answer → List Tx → List Tx
  | .begin, .ok tx, held => tx :: held
  | .commit tx, _, held => held.erase tx
  | .rollback tx, _, held => held.erase tx
  | _, _, held => held

structure Scene (σ α : Type) where
  store : σ
  sessions : List (Session α)

/-- A call adds no transaction but one that was not open before. -/
theorem Permits.heldAfter {effect : Effect} {call : Call} {answer : call.Answer} {v v' : View}
    (h : Permits effect call v answer v') (held : List Tx) :
    (call.heldAfter answer held).Sublist held ∨
      ∃ tx, call.heldAfter answer held = tx :: held ∧ v.opened tx = none := by
  cases call with
  | begin =>
      cases answer with
      | ok tx => exact .inr ⟨tx, rfl, h.1⟩
      | error error => exact .inl (List.Sublist.refl held)
  | commit tx => exact .inl List.erase_sublist
  | rollback tx => exact .inl List.erase_sublist
  | applied => exact .inl (List.Sublist.refl held)
  | execute sql => exact .inl (List.Sublist.refl held)
  | claim tx id slug => exact .inl (List.Sublist.refl held)
  | executeIn tx sql => exact .inl (List.Sublist.refl held)

/-! ## Transactions given up -/

namespace View

def without (v : View) : List Tx → View
  | [] => v
  | tx :: rest => (v.alter tx none).without rest

variable (v : View)

@[simp] theorem without_ledger (held : List Tx) : (v.without held).ledger = v.ledger := by
  induction held generalizing v with
  | nil => rfl
  | cons tx rest ih => rw [without, ih, alter_ledger]

@[simp] theorem without_committed (held : List Tx) :
    (v.without held).committed = v.committed := by
  induction held generalizing v with
  | nil => rfl
  | cons tx rest ih => rw [without, ih, alter_committed]

theorem without_opened {held : List Tx} {tx : Tx} (h : tx ∉ held) :
    (v.without held).opened tx = v.opened tx := by
  induction held generalizing v with
  | nil => rfl
  | cons other rest ih =>
      obtain ⟨hother, hrest⟩ := List.ne_and_not_mem_of_not_mem_cons h
      rw [without, ih _ hrest, alter_opened_of_ne v none hother]

theorem Exclusive.without {v : View} (h : v.Exclusive) (held : List Tx) :
    (v.without held).Exclusive := by
  induction held generalizing v with
  | nil => exact h
  | cons tx rest ih => exact ih (h.anti rfl fun _ _ hheld => (holds_of_alter_none hheld).1)

end View

theorem Engine.Honours.dropsAll {σ : Type} {engine : Engine σ} {effect : Effect}
    (honours : engine.Honours effect) {held : List Tx} {s s' : σ} (hs : engine.possible s)
    (h : engine.DropsAll held s s') :
    engine.possible s' ∧ engine.view s' = (engine.view s).without held := by
  induction held generalizing s with
  | nil => cases h; exact ⟨hs, rfl⟩
  | cons tx rest ih =>
      obtain ⟨between, hfirst, hrest⟩ := h
      obtain ⟨hbetween, hview⟩ := honours.drops hs hfirst
      rw [View.without, ← hview]
      exact ih hbetween hrest

/-! ## Steps -/

namespace Scene

variable {σ α : Type}

/-- The transactions of one session and those of the others are apart. -/
theorem apart_iff (before others : List (Session α)) (session : Session α) :
    ((before ++ session :: others).flatMap (·.held)).Nodup ↔
      session.held.Nodup ∧ ((before ++ others).flatMap (·.held)).Nodup ∧
        ∀ tx ∈ session.held, ∀ other ∈ before ++ others, tx ∉ other.held := by
  rw [(List.perm_middle.flatMap_right _).nodup_iff, List.flatMap_cons, List.nodup_append]
  refine and_congr_right fun _ => and_congr_right fun _ => ?_
  constructor
  · intro h tx htx other hother hmem
    exact h tx htx tx (List.mem_flatMap.mpr ⟨other, hother, hmem⟩) rfl
  · rintro h tx htx _ hmem rfl
    obtain ⟨other, hother, hheld⟩ := List.mem_flatMap.mp hmem
    exact h tx htx other hother hheld

/-- One session makes its next call, or is dropped. -/
inductive Step (engine : Engine σ) : Scene σ α → Scene σ α → Prop
  | called {s s' before others} {call : Call} {next held} {answer : call.Answer}
      (h : engine.Replies call s answer s') :
    Step engine ⟨s, before ++ ⟨.ask call next, held⟩ :: others⟩
      ⟨s', before ++ ⟨next answer, call.heldAfter answer held⟩ :: others⟩
  | dropped {s s' before others} {session : Session α} (h : engine.DropsAll session.held s s') :
    Step engine ⟨s, before ++ session :: others⟩ ⟨s', before ++ others⟩

def Reaches (engine : Engine σ) : Scene σ α → Scene σ α → Prop :=
  Relation.ReflTransGen (Step engine)

/-- What holds at the start and is kept by each step holds ever after. -/
theorem Reaches.keeps {engine : Engine σ} {start scene : Scene σ α} {P : Scene σ α → Prop}
    (h : Reaches engine start scene) (first : P start)
    (step : ∀ a b, P a → Step engine a b → P b) : P scene := by
  induction h with
  | refl => exact first
  | tail _ hstep ih => exact step _ _ ih hstep

/-! ## Turns -/

def turn (handle : Handler calls σ) (scene : Scene σ α) (i : Nat) : Scene σ α :=
  match scene.sessions[i]? with
  | some ⟨.ask call next, held⟩ =>
    ⟨(handle call scene.store).2,
      scene.sessions.set i ⟨next (handle call scene.store).1,
        call.heldAfter (handle call scene.store).1 held⟩⟩
  | _ => scene

def turns (handle : Handler calls σ) (scene : Scene σ α) (order : List Nat) : Scene σ α :=
  order.foldl (turn handle) scene

variable {engine : Engine σ} {handle : Handler calls σ}

theorem turn_reaches (answers : ∀ call s, engine.answers call s (handle call s).1 (handle call s).2)
    (scene : Scene σ α) (i : Nat) : Reaches engine scene (scene.turn handle i) := by
  obtain ⟨s, sessions⟩ := scene
  rw [turn]
  split
  · next call next held hfound =>
      obtain ⟨hi, hget⟩ := List.getElem?_eq_some_iff.mp hfound
      have hsplit : sessions = sessions.take i ++ ⟨.ask call next, held⟩ :: sessions.drop (i + 1) := by
        rw [← hget, ← List.drop_eq_getElem_cons hi, List.take_append_drop]
      have hstep : Step engine
          ⟨s, sessions.take i ++ ⟨.ask call next, held⟩ :: sessions.drop (i + 1)⟩
          ⟨(handle call s).2, sessions.take i ++ ⟨next (handle call s).1,
            call.heldAfter (handle call s).1 held⟩ :: sessions.drop (i + 1)⟩ :=
        .called (.answered (answers call s))
      rw [← hsplit] at hstep
      rw [List.set_eq_take_append_cons_drop, if_pos hi]
      exact .single hstep
  · exact .refl

/-- Whoever's turn it is, a store that answers as the handler does can come this far. -/
theorem turns_reaches (answers : ∀ call s, engine.answers call s (handle call s).1 (handle call s).2)
    (scene : Scene σ α) (order : List Nat) : Reaches engine scene (scene.turns handle order) := by
  induction order generalizing scene with
  | nil => exact .refl
  | cons i rest ih => exact (turn_reaches answers scene i).trans (ih _)

/-- The store once all sessions have been dropped, the first one first. -/
def abandoned (drop : Tx → σ → σ) (scene : Scene σ α) : σ :=
  (scene.sessions.flatMap (·.held)).foldl (fun s tx => drop tx s) scene.store

theorem abandoned_reaches {drop : Tx → σ → σ} (drops : ∀ tx s, engine.drops tx s (drop tx s))
    (scene : Scene σ α) : Reaches engine scene ⟨scene.abandoned drop, []⟩ := by
  obtain ⟨s, sessions⟩ := scene
  induction sessions generalizing s with
  | nil => exact .refl
  | cons session rest ih =>
      have hall : ∀ held s, engine.DropsAll held s (held.foldl (fun s tx => drop tx s) s) := by
        intro held
        induction held with
        | nil => exact fun _ => rfl
        | cons tx held ihheld => exact fun s => ⟨drop tx s, drops tx s, ihheld _⟩
      have hstep : Step engine ⟨s, [] ++ session :: rest⟩ ⟨_, [] ++ rest⟩ :=
        .dropped (hall session.held s)
      have hrest := ih (session.held.foldl (fun s tx => drop tx s) s)
      rw [abandoned, ← List.foldl_append, ← List.flatMap_cons] at hrest
      exact hrest.head hstep

end Scene

end SchemaLedger.Store
