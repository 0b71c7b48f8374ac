import SchemaLedger.Migration
import SchemaLedger.Program
import SchemaLedger.Store.Error

/-! # Calls to the store

The store holds the ledger and runs the migrations' statements, directly or inside a
transaction. -/

namespace SchemaLedger.Store

structure Tx where
  number : Nat
  deriving DecidableEq, Repr

inductive Call where
  | applied
  | execute (sql : String)
  | begin
  /-- Records an ID in the ledger when the transaction commits. -/
  | claim (tx : Tx) (id : Ident) (slug : String)
  | executeIn (tx : Tx) (sql : String)
  | commit (tx : Tx)
  | rollback (tx : Tx)
  deriving DecidableEq, Repr

abbrev Call.Answer : Call → Type
  | .applied => Except StoreError (List LedgerRow)
  | .begin => Except StoreError Tx
  | _ => Except StoreError Unit

abbrev calls : Interface := ⟨Call, Call.Answer⟩

def Call.failed (error : StoreError) : (call : Call) → call.Answer
  | .applied => .error error
  | .execute _ => .error error
  | .begin => .error error
  | .claim .. => .error error
  | .executeIn .. => .error error
  | .commit _ => .error error
  | .rollback _ => .error error

end SchemaLedger.Store
