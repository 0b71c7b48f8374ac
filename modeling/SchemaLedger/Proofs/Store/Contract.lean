import Mathlib.Logic.Function.Basic
import SchemaLedger.Store.Memory

/-! # What a store promises

A store is seen through the rows of its ledger, the work of its open transactions and the work
that has lasted. The contract says, call by call, how an answer goes with a change of this view. A
ledger that has not been created yet counts as one without rows. -/

namespace SchemaLedger.Store

def Call.tx? : Call → Option Tx
  | .claim tx .. | .executeIn tx _ | .commit tx | .rollback tx => some tx
  | .applied | .execute _ | .begin => none

/-- What can be seen of a store. -/
structure View where
  ledger : List Claim
  opened : Tx → Option Work
  committed : List Work

namespace View

def Recorded (v : View) (id : Ident) : Prop := ∃ claim ∈ v.ledger, claim.id = id

/-- An open transaction has claimed the ID. -/
def Holds (v : View) (tx : Tx) (id : Ident) : Prop :=
  ∃ work, v.opened tx = some work ∧ ∃ claim ∈ work.claims, claim.id = id

/-- A transaction other than the given one has claimed the ID. -/
def HeldBeside (v : View) (tx? : Option Tx) (id : Ident) : Prop :=
  ∃ other, tx? ≠ some other ∧ v.Holds other id

/-- An ID that a transaction cannot claim: it is recorded, or another transaction holds it. -/
def Taken (v : View) (tx : Tx) (id : Ident) : Prop := v.Recorded id ∨ v.HeldBeside (some tx) id

/-- Opens, changes or closes one transaction. -/
def alter (v : View) (tx : Tx) (work? : Option Work) : View :=
  { v with opened := Function.update v.opened tx work? }

/-- Rows that some statements have added stay clear of what other transactions hold. -/
def Spared (v : View) (tx? : Option Tx) (before after : List Claim) : Prop :=
  ∀ claim ∈ after, claim ∈ before ∨ ¬ v.HeldBeside tx? claim.id

@[simp] theorem alter_ledger (v : View) (tx : Tx) (work? : Option Work) :
    (v.alter tx work?).ledger = v.ledger := rfl

@[simp] theorem alter_committed (v : View) (tx : Tx) (work? : Option Work) :
    (v.alter tx work?).committed = v.committed := rfl

@[simp] theorem alter_opened_self (v : View) (tx : Tx) (work? : Option Work) :
    (v.alter tx work?).opened tx = work? := by
  simp only [alter, Function.update_self]

theorem alter_opened_of_ne (v : View) {tx other : Tx} (work? : Option Work) (h : other ≠ tx) :
    (v.alter tx work?).opened other = v.opened other := by
  simp only [alter, Function.update_of_ne h]

end View

/-- What statements may make of the rows of a ledger. -/
structure Effect where
  alone : String → List Claim → List Claim → Prop
  inside : String → List Claim → List Claim → Prop

namespace Effect

def Leaves (rows : List Claim → List Claim → Prop) : Prop :=
  ∀ before after, rows before after → after = before

def Keeps (rows : List Claim → List Claim → Prop) : Prop :=
  ∀ before after, rows before after → before ⊆ after

def Chain (effect : Effect) : List String → List Claim → List Claim → Prop
  | [], before, after => after = before
  | sql :: rest, before, after =>
    ∃ between, effect.inside sql before between ∧ Chain effect rest between after

variable {effect : Effect}

theorem Leaves.keeps {rows : List Claim → List Claim → Prop} (h : Leaves rows) : Keeps rows := by
  intro before after hrows
  rw [h before after hrows]
  exact List.Subset.refl before

theorem chain_keeps {bodies : List String} (h : ∀ sql ∈ bodies, Keeps (effect.inside sql))
    {before after : List Claim} (hchain : effect.Chain bodies before after) : before ⊆ after := by
  induction bodies generalizing before with
  | nil => rw [show after = before from hchain]; exact List.Subset.refl before
  | cons sql rest ih =>
      obtain ⟨between, hfirst, hrest⟩ := hchain
      have hbetween : before ⊆ between := h sql List.mem_cons_self before between hfirst
      exact List.Subset.trans hbetween
        (ih (fun body hbody => h body (List.mem_cons_of_mem sql hbody)) hrest)

end Effect

/-- How an answer goes with what becomes of the view. A call that fails changes nothing, but a
transaction that fails to end is gone. -/
def Permits (effect : Effect) : (call : Call) → View → call.Answer → View → Prop
  | .applied, v, .ok rows, v' =>
    (rows.map fun row => (⟨row.id, row.slug⟩ : Claim)).Perm v.ledger ∧ v' = v
  | .applied, v, .error _, v' => v' = v
  | .execute sql, v, .ok (), v' =>
    ∃ after, effect.alone sql v.ledger after ∧ v.Spared none v.ledger after ∧
      v' = { v with ledger := after, committed := v.committed ++ [.direct sql] }
  | .execute _, v, .error _, v' => v' = v
  | .begin, v, .ok tx, v' => v.opened tx = none ∧ v' = v.alter tx (some .empty)
  | .begin, v, .error _, v' => v' = v
  | .claim tx id slug, v, .ok (), v' =>
    ¬ v.Taken tx id ∧ ∃ work, v.opened tx = some work ∧
      v' = v.alter tx (some (work.claim ⟨id, slug⟩))
  | .claim .., v, .error _, v' => v' = v
  | .executeIn tx sql, v, .ok (), v' =>
    ∃ work, v.opened tx = some work ∧ v' = v.alter tx (some (work.perform sql))
  | .executeIn .., v, .error _, v' => v' = v
  | .commit tx, v, .ok (), v' =>
    ∃ work after, v.opened tx = some work ∧
      effect.Chain work.bodies (v.ledger ++ work.claims) after ∧
      v.Spared (some tx) (v.ledger ++ work.claims) after ∧
      v' = { v.alter tx none with ledger := after, committed := v.committed ++ [work] }
  | .commit tx, v, .error _, v' => v' = v.alter tx none
  | .rollback tx, v, _, v' => v' = v.alter tx none

/-- How a store may answer, what it is after a transaction is dropped, and what is seen of it. -/
structure Engine (σ : Type) where
  answers : (call : Call) → σ → call.Answer → σ → Prop
  drops : Tx → σ → σ → Prop
  view : σ → View
  possible : σ → Prop

namespace Engine

variable {σ : Type}

def ofHandler (handle : Handler calls σ) (drop : Tx → σ → σ) (view : σ → View)
    (possible : σ → Prop) : Engine σ where
  answers call s answer s' := handle call s = (answer, s')
  drops tx s s' := s' = drop tx s
  view := view
  possible := possible

def Ready (engine : Engine σ) (call : Call) (s : σ) : Prop :=
  ∀ tx, call.tx? = some tx → ∃ work, (engine.view s).opened tx = some work

structure Honours (engine : Engine σ) (effect : Effect) : Prop where
  answers : ∀ {call : Call} {s s' : σ} {answer : call.Answer}, engine.possible s →
    engine.Ready call s → engine.answers call s answer s' →
    engine.possible s' ∧ Permits effect call (engine.view s) answer (engine.view s')
  refuses : ∀ {tx : Tx} {id : Ident} {slug : String} {s s' : σ} {answer : Except StoreError Unit},
    engine.possible s → engine.Ready (.claim tx id slug) s → (engine.view s).Taken tx id →
    engine.answers (.claim tx id slug) s answer s' →
    ∃ message, answer = .error (.uniqueViolation message)
  drops : ∀ {tx : Tx} {s s' : σ}, engine.possible s → engine.drops tx s s' →
    engine.possible s' ∧ engine.view s' = (engine.view s).alter tx none

/-- What a store is after a call that it could not carry out. -/
def Fails (engine : Engine σ) : Call → σ → σ → Prop
  | .commit tx, s, s' => engine.drops tx s s'
  | .rollback tx, s, s' => engine.drops tx s s'
  | _, s, s' => s' = s

/-- The answers that a caller may get: the store's own, or any error if the call fails. -/
inductive Replies (engine : Engine σ) : (call : Call) → σ → call.Answer → σ → Prop
  | answered {call s answer s'} (h : engine.answers call s answer s') :
    Replies engine call s answer s'
  | failed {call s s'} (error : StoreError) (h : engine.Fails call s s') :
    Replies engine call s (call.failed error) s'

def DropsAll (engine : Engine σ) : List Tx → σ → σ → Prop
  | [], s, s' => s' = s
  | tx :: rest, s, s' => ∃ between, engine.drops tx s between ∧ DropsAll engine rest between s'

variable {engine : Engine σ} {effect : Effect} (honours : engine.Honours effect)

include honours in
/-- Whether a call fails or not, what becomes of the store is what the contract permits. -/
theorem Honours.replies {call : Call} {s s' : σ} {answer : call.Answer}
    (hs : engine.possible s) (ready : engine.Ready call s)
    (h : engine.Replies call s answer s') :
    engine.possible s' ∧ Permits effect call (engine.view s) answer (engine.view s') := by
  cases h with
  | answered h => exact honours.answers hs ready h
  | failed error h =>
      cases call with
      | commit tx => exact honours.drops hs h
      | rollback tx => exact honours.drops hs h
      | applied => cases h; exact ⟨hs, rfl⟩
      | execute sql => cases h; exact ⟨hs, rfl⟩
      | begin => cases h; exact ⟨hs, rfl⟩
      | claim tx id slug => cases h; exact ⟨hs, rfl⟩
      | executeIn tx sql => cases h; exact ⟨hs, rfl⟩

end Engine

end SchemaLedger.Store
