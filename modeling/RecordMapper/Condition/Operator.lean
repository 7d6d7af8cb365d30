namespace RecordMapper

inductive Operator
  | eq
  | ne
  | lt
  | le
  | gt
  | ge
  | like
  | notLike
  deriving DecidableEq

def Operator.sql : Operator → String
  | eq => "="
  | ne => "<>"
  | lt => "<"
  | le => "<="
  | gt => ">"
  | ge => ">="
  | like => "LIKE"
  | notLike => "NOT LIKE"

def Operator.all : List Operator := [eq, ne, lt, le, gt, ge, like, notLike]

def Operator.ofSql? (sql : String) : Option Operator := all.find? fun op => op.sql == sql

end RecordMapper
