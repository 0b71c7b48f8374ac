import SchemaLedger.Ident

/-! # The bootstrap migration

The migration that creates the ledger, and the content of a new migration that has none yet. -/

namespace SchemaLedger.Bootstrap

def slug : String := "init"

/-- The lines of the statements that create the ledger. Each ends with a line feed. -/
def lines : List String := [
  "/*",
  "Prepare the database for drift.",
  "",
  "This migration runs with the drift:no-transaction directive below, so drift",
  "does not wrap it in a transaction and does not claim it before running it.",
  "It cannot be claimed up front: it is the migration that creates the ledger",
  "table and the claim function. Instead it opens its own transaction and",
  "claims itself as its last step.",
  "",
  "Every other migration is applied inside a transaction that first calls",
  "_drift_claim_migration(id, slug). The claim fails when the ID is already",
  "recorded, which aborts the transaction, so a migration is never applied",
  "twice.",
  "",
  "The claim function may be changed as long as it keeps its signature, writes",
  "the ID to schema_migrations, and fails when the ID is already there. The",
  "table must keep its name and its integer primary key column \"id\".",
  "*/",
  "--drift:no-transaction",
  "",
  "begin;",
  "",
  "create table schema_migrations (",
  "    id integer primary key,",
  "    slug text not null,",
  "    run_at timestamp not null default current_timestamp",
  ");",
  "",
  "create function _drift_claim_migration(mid integer, mslug text) returns void as $$",
  "    insert into schema_migrations (id, slug) values (mid, mslug);",
  "$$ language sql;",
  "",
  "select _drift_claim_migration(0, 'init');",
  "",
  "commit;"]

def sql : String := String.join (lines.map (· ++ "\n"))

def placeholder : String := "-- Write your migration here.\n"

end SchemaLedger.Bootstrap
