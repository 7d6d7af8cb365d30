import RecordMapper.Catalog
import RecordMapper.Connection
import RecordMapper.Database.Store
import RecordMapper.Sql.Reading

/-!
An embedded database with transactions, and the connection to it. Within a transaction statements
act on a copy of the tables, which a commit makes durable and a rollback forgets.
-/

namespace RecordMapper

structure Database where
  durable : Database.Store := {}
  -- The tables as the open transaction sees them.
  working : Option Database.Store := none
  -- Rows written by the last statement that writes rows; every later one reports it again.
  lastAffected : Nat := 0

namespace Database

open Sql

def visible (db : Database) : Store := db.working.getD db.durable

def keep (db : Database) (s : Store) : Database :=
  match db.working with
  | some _ => { db with working := some s }
  | none => { db with durable := s }

def perform (db : Database) : Command → Except Refusal (Answer × Database)
  | .begin =>
    match db.working with
    | some _ => .error .openTransaction
    | none => .ok ({}, { db with working := some db.durable })
  | .commit =>
    match db.working with
    | some s => .ok ({}, { db with durable := s, working := none })
    | none => .error .noTransaction
  | .rollback =>
    match db.working with
    | some _ => .ok ({}, { db with working := none })
    | none => .error .noTransaction
  | command => do
    let (answer, s) ← db.visible.apply command
    return (answer, { db.keep s with lastAffected := answer.affected.getD db.lastAffected })

/-- The catalog query is known by its text. No text holds the character that ends a statement. -/
def answer (db : Database) (sql : String) : Except Refusal (Answer × Database) :=
  if sql = Catalog.tableList .sqlite then
    .ok ({ rows := db.visible.listTables.map fun name => [.text name] }, db)
  else if sql.toList.contains '\x00' then .error .unsupported
  else match Command.read? sql with
    | some command => db.perform command
    | none => .error .unsupported

def run (take : Answer → Database → α) (sql : String) (db : Database) :
    Except Error α × Database :=
  match db.answer sql with
  | .ok (a, db) => (.ok (take a db), db)
  | .error refusal => (.error (.database refusal.message), db)

def connection : Connection Database where
  execute := run fun _ db => db.lastAffected
  fetchOptional := run fun a _ => a.rows.head?
  fetchAll := run fun a _ => a.rows
  announce sql := [⟨.debug, sql⟩]

end Database

end RecordMapper
