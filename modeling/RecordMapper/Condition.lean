import RecordMapper.Schema

namespace RecordMapper

inductive Connective
  | filter
  | and
  | or
  deriving DecidableEq

def Connective.sql : Connective → String
  | filter => ""
  | and => "AND "
  | or => "OR "

def conditionSql (d : Dialect) (s : Schema) (column : String) (op : Operator) (v : Value) :
    Except Error String :=
  match s.column? column with
  | none => .error (.invalidArgument (.noColumn s.table column))
  | some c =>
    if v.isNull then
      match op with
      | .eq => .ok (quoteName c.name ++ " IS NULL")
      | .ne => .ok (quoteName c.name ++ " IS NOT NULL")
      | op => .error (.invalidArgument (.nullComparison op))
    else do return quoteName c.name ++ " " ++ op.sql ++ " " ++ (← c.type.literal d v)

def assignmentSql (d : Dialect) (s : Schema) (column : String) (v : Value) :
    Except Error String :=
  match s.column? column with
  | none => .error (.invalidArgument (.noColumn s.table column))
  | some c =>
    if v.isNull && !c.nullable then .error (.validation (.notNullable s.table column))
    else do return quoteName c.name ++ " = " ++ (← c.type.literal d v)

structure Conditions where
  fragments : List String := []
  started : Bool := false
  error : Option Error := none

namespace Conditions

def fail (e : Error) (cs : Conditions) : Conditions := { cs with error := cs.error.or (some e) }

def fragment (d : Dialect) (s : Schema) (started : Bool) (connective : Connective)
    (column : String) (op : Operator) (v : Value) : Except Error String :=
  match connective, started with
  | .filter, true => .error (.invalidArgument .secondFilter)
  | .and, false => .error (.invalidArgument .noFilter)
  | .or, false => .error (.invalidArgument .noFilter)
  | _, _ => do return connective.sql ++ (← conditionSql d s column op v)

/-- A chain counts as started by its first call, even by one that was a mistake. -/
def push (d : Dialect) (s : Schema) (connective : Connective) (column : String) (op : Operator)
    (v : Value) (cs : Conditions) : Conditions :=
  match fragment d s cs.started connective column op v with
  | .ok sql => { cs with fragments := cs.fragments ++ [sql], started := true }
  | .error e => { cs.fail e with started := true }

def check (cs : Conditions) : Except Error Unit :=
  match cs.error with
  | some e => .error e
  | none => .ok ()

end Conditions

end RecordMapper
