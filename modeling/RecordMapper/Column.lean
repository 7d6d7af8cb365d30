import RecordMapper.ColumnType
import RecordMapper.Statement

namespace RecordMapper

structure Column where
  name : String
  type : ColumnType
  unique : Bool := false
  nullable : Bool := true
  deriving DecidableEq

namespace Column

def isPrimaryKey (c : Column) : Bool := c.type.isPrimaryKey

def sql (d : Dialect) (c : Column) : Except Error String := do
  let type ← c.type.sql d
  return quoteName c.name ++ " " ++ type ++
    (if c.unique && d.inlineUnique then " UNIQUE" else "") ++
    (if !c.nullable && !c.isPrimaryKey then " " ++ Keyword.notNull else "")

end Column

inductive ReferentialAction
  | cascade
  | restrict
  | setNull
  | setDefault
  | noAction
  deriving DecidableEq

def ReferentialAction.sql : ReferentialAction → String
  | cascade => "CASCADE"
  | restrict => "RESTRICT"
  | setNull => "SET NULL"
  | setDefault => "SET DEFAULT"
  | noAction => "NO ACTION"

structure ForeignKey where
  name : String
  keyColumn : String
  parentTable : String
  -- Names with commas between them.
  parentKeyColumns : String
  onDelete : Option ReferentialAction := none
  onUpdate : Option ReferentialAction := none
  deriving DecidableEq

namespace ForeignKey

def parentColumns (fk : ForeignKey) : List String :=
  let names := (fk.parentKeyColumns.toList.splitOn ',').map Text.trim
  (names.filter fun name => name ≠ []).map String.ofList

def actionClause (event : String) : Option ReferentialAction → String
  | none => ""
  | some action => " ON " ++ event ++ " " ++ action.sql

def sql (fk : ForeignKey) : String :=
  "CONSTRAINT " ++ quoteName fk.name ++ " FOREIGN KEY (" ++ quoteName fk.keyColumn ++
    ") REFERENCES " ++ quoteName fk.parentTable ++
    " (" ++ Statement.nameList fk.parentColumns ++ ")" ++
    actionClause "DELETE" fk.onDelete ++ actionClause "UPDATE" fk.onUpdate

end ForeignKey

end RecordMapper
