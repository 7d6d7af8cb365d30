import RecordMapper.Condition
import RecordMapper.Session

namespace RecordMapper

structure Update where
  dialect : Dialect
  schema : Schema
  assignments : List String := []
  conditions : Conditions := {}

namespace Update

def condition (connective : Connective) (column : String) (op : Operator) (v : Value)
    (u : Update) : Update :=
  { u with conditions := u.conditions.push u.dialect u.schema connective column op v }

def equals (column : String) (v : Value) (u : Update) : Update := u.condition .filter column .eq v

def set (column : String) (v : Value) (u : Update) : Update :=
  match assignmentSql u.dialect u.schema column v with
  | .ok sql => { u with assignments := u.assignments ++ [sql] }
  | .error e => { u with conditions := u.conditions.fail e }

def setAll (u : Update) (pairs : List (String × Value)) : Update :=
  pairs.foldl (fun u p => u.set p.1 p.2) u

def toSql (u : Update) : String :=
  Statement.update u.schema.table u.assignments u.conditions.fragments

def commit (c : Connection σ) (u : Update) : SessionM σ Nat := do
  Session.liftExcept u.conditions.check
  if u.assignments = [] then throw (.invalidArgument .nothingToSet)
  let affected ← Session.execute c u.toSql
  Session.commit c
  return affected

end Update

structure Delete where
  dialect : Dialect
  schema : Schema
  conditions : Conditions := {}

namespace Delete

def condition (connective : Connective) (column : String) (op : Operator) (v : Value)
    (x : Delete) : Delete :=
  { x with conditions := x.conditions.push x.dialect x.schema connective column op v }

def equals (column : String) (v : Value) (x : Delete) : Delete := x.condition .filter column .eq v

def toSql (x : Delete) : String := Statement.delete x.schema.table x.conditions.fragments

def commit (c : Connection σ) (x : Delete) : SessionM σ Nat := do
  Session.liftExcept x.conditions.check
  let affected ← Session.execute c x.toSql
  Session.commit c
  return affected

end Delete

end RecordMapper
