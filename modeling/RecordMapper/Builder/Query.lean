import RecordMapper.Condition
import RecordMapper.Model
import RecordMapper.Session

namespace RecordMapper

structure Query (α : Type) where
  dialect : Dialect
  model : Model α
  conditions : Conditions := {}
  limit? : Option Nat := none

namespace Query

def condition (connective : Connective) (column : String) (op : Operator) (v : Value)
    (q : Query α) : Query α :=
  { q with conditions := q.conditions.push q.dialect q.model.schema connective column op v }

def equals (column : String) (v : Value) (q : Query α) : Query α :=
  q.condition .filter column .eq v

def limit (n : Nat) (q : Query α) : Query α := { q with limit? := some n }

def toSql (q : Query α) : String :=
  Statement.select q.model.schema.table q.model.schema.columnNames q.conditions.fragments q.limit?

def atMostOne (q : Query α) : Query α := { q with limit? := q.limit?.or (some 1) }

def first (c : Connection σ) (q : Query α) : SessionM σ (Option α) := do
  Session.liftExcept q.conditions.check
  match ← Session.fetchOne c q.atMostOne.toSql with
  | none => return none
  | some row => some <$> Session.liftExcept (q.model.ofRow row)

def all (c : Connection σ) (q : Query α) : SessionM σ (List α) := do
  Session.liftExcept q.conditions.check
  let rows ← Session.fetchAll c q.toSql
  Session.liftExcept (rows.mapM q.model.ofRow)

end Query

end RecordMapper
