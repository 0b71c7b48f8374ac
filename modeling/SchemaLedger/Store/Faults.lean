import SchemaLedger.Store.Memory

/-! # A store with faults

A store in memory of which chosen calls fail, and the record of the calls made to it. -/

namespace SchemaLedger.Store

inductive Kind where
  | applied
  | execute
  | begin
  | claim
  | executeIn
  | commit
  | rollback
  deriving DecidableEq, Repr

def Call.kind : Call → Kind
  | .applied => .applied
  | .execute _ => .execute
  | .begin => .begin
  | .claim .. => .claim
  | .executeIn .. => .executeIn
  | .commit _ => .commit
  | .rollback _ => .rollback

/-- Calls of a kind fail: one of them, counted from 1, or each. -/
structure Fault where
  kind : Kind
  nth : Option Nat
  error : StoreError
  deriving DecidableEq, Repr

def Fault.fits (fault : Fault) (kind : Kind) (count : Nat) : Bool :=
  fault.kind = kind && fault.nth.all (· = count)

structure Faulty where
  memory : Memory
  faults : List Fault
  /-- The kinds of the calls made since the faults were chosen. -/
  counted : List Kind
  trace : List Call
  deriving Repr

namespace Faulty

def ofLedger (ledger : Option (List Claim)) (faults : List Fault) : Faulty :=
  ⟨.ofLedger ledger, faults, [], []⟩

def fault? (store : Faulty) (call : Call) : Option StoreError :=
  (store.faults.find? fun fault =>
    fault.fits call.kind (store.counted.count call.kind + 1)).map (·.error)

def recorded (store : Faulty) (call : Call) : Faulty :=
  { store with counted := call.kind :: store.counted, trace := store.trace ++ [call] }

/-- A failing call changes nothing, but a transaction that fails to end is gone. -/
def afterFailure (memory : Memory) : Call → Memory
  | .commit tx => memory.close tx
  | .rollback tx => memory.close tx
  | _ => memory

def answer : Handler calls Faulty := fun call store =>
  let next := store.recorded call
  match store.fault? call with
  | some error => (call.failed error, { next with memory := afterFailure store.memory call })
  | none =>
    let (reply, memory) := Memory.answer call store.memory
    (reply, { next with memory := memory })

def withFaults (store : Faulty) (faults : List Fault) : Faulty :=
  { store with faults := faults, counted := [] }

def withLedger (store : Faulty) (ledger : Option (List Claim)) : Faulty :=
  { store with memory := { store.memory with ledger := ledger } }

end Faulty

end SchemaLedger.Store
