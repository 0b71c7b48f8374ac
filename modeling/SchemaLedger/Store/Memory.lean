import SchemaLedger.Bootstrap
import SchemaLedger.Store.Call
import SchemaLedger.Text.Search

/-! # A store in memory

The ledger as a list of rows in the order of their commits, and the work of the transactions
that are under way. Statements have no effect but two: the bootstrap migration creates the
ledger, and one that calls the function `fail` is refused. -/

namespace SchemaLedger.Store

structure Claim where
  id : Ident
  slug : String
  deriving DecidableEq, Repr

/-- What has been done in one transaction: the claims it made and the statements it ran. -/
structure Work where
  claims : List Claim
  bodies : List String
  deriving DecidableEq, Repr

namespace Work

def empty : Work := ⟨[], []⟩

def direct (sql : String) : Work := ⟨[], [sql]⟩

def claim (work : Work) (claim : Claim) : Work := { work with claims := work.claims ++ [claim] }

def perform (work : Work) (sql : String) : Work := { work with bodies := work.bodies ++ [sql] }

end Work

structure Memory where
  /-- Nothing until the ledger has been created. -/
  ledger : Option (List Claim)
  opened : List (Tx × Work)
  /-- The work that has lasted, in the order of its commits. -/
  committed : List Work
  begun : Nat
  deriving Repr

namespace Memory

def ofLedger (ledger : Option (List Claim)) : Memory := ⟨ledger, [], [], 0⟩

def failing : String := "select fail();"

def refuses (sql : String) : Bool := Text.occursIn failing.toList sql.toList

def noFunction : StoreError := .backend "function fail() does not exist"

def taken (id : Ident) : StoreError :=
  .uniqueViolation ("Key (id)=(" ++ id.text ++ ") already exists.")

/-- The rows ascending by ID, those of equal ID in the order of their commits. -/
def rows (claims : List Claim) : List LedgerRow :=
  (claims.mergeSort fun a b => a.id.value ≤ b.id.value).map fun claim =>
    ⟨claim.id, claim.slug, .epoch⟩

def workOf (memory : Memory) (tx : Tx) : Work := (memory.opened.lookup tx).getD .empty

def close (memory : Memory) (tx : Tx) : Memory :=
  { memory with opened := memory.opened.filter fun other => other.1 ≠ tx }

def alter (memory : Memory) (tx : Tx) (change : Work → Work) : Memory :=
  { memory with
    opened := memory.opened.map fun other =>
      if other.1 = tx then (tx, change other.2) else other }

/-- Whether an ID is in the ledger or claimed by an open transaction. -/
def holds (memory : Memory) (id : Ident) : Bool :=
  (memory.ledger.getD []).any (·.id = id) ||
    memory.opened.any fun other => other.2.claims.any (·.id = id)

def keep (memory : Memory) (work : Work) : Memory :=
  { memory with committed := memory.committed ++ [work] }

def execute (memory : Memory) (sql : String) : Except StoreError Unit × Memory :=
  if refuses sql then (.error noFunction, memory)
  else if sql = Bootstrap.sql then
    match memory.ledger with
    | some _ => (.error (.backend "relation already exists"), memory)
    | none =>
      let created := some [⟨.first, Bootstrap.slug⟩]
      (.ok (), { memory.keep (.direct sql) with ledger := created })
  else (.ok (), memory.keep (.direct sql))

def claim (memory : Memory) (tx : Tx) (id : Ident) (slug : String) :
    Except StoreError Unit × Memory :=
  if memory.ledger.isNone then (.error .tableMissing, memory)
  else if memory.holds id then (.error (taken id), memory)
  else (.ok (), memory.alter tx (·.claim ⟨id, slug⟩))

def executeIn (memory : Memory) (tx : Tx) (sql : String) : Except StoreError Unit × Memory :=
  if refuses sql then (.error noFunction, memory)
  else (.ok (), memory.alter tx (·.perform sql))

def commit (memory : Memory) (tx : Tx) : Memory :=
  let work := memory.workOf tx
  { (memory.close tx).keep work with ledger := memory.ledger.map (· ++ work.claims) }

def answer : Handler calls Memory
  | .applied, memory =>
    match memory.ledger with
    | none => (.error .tableMissing, memory)
    | some claims => (.ok (rows claims), memory)
  | .execute sql, memory => memory.execute sql
  | .begin, memory =>
    let tx : Tx := ⟨memory.begun⟩
    (.ok tx,
      { memory with opened := memory.opened ++ [(tx, .empty)], begun := memory.begun + 1 })
  | .claim tx id slug, memory => memory.claim tx id slug
  | .executeIn tx sql, memory => memory.executeIn tx sql
  | .commit tx, memory => (.ok (), memory.commit tx)
  | .rollback tx, memory => (.ok (), memory.close tx)

end Memory

end SchemaLedger.Store
