import RecordMapper.Column

namespace RecordMapper.Sql

inductive Literal
  | null
  -- The word that asks for a column's default.
  | default
  -- The current time, by whatever name.
  | now
  | integer (i : Int)
  | text (s : String)
  deriving DecidableEq

inductive Condition
  | compare (column : String) (op : Operator) (literal : Literal)
  | isNull (column : String)
  | isNotNull (column : String)
  deriving DecidableEq

abbrev Filter := List (List Condition)

structure ColumnDefinition where
  name : String
  type : String
  default : Option Literal := none
  -- How often the definition says that the column is the primary key.
  keys : Nat := 0
  unique : Bool := false
  notNull : Bool := false
  deriving DecidableEq

def ColumnDefinition.isKey (c : ColumnDefinition) : Bool := c.keys != 0

structure ForeignKeyDefinition where
  name : String
  column : String
  parentTable : String
  parentColumns : List String
  onDelete : Option ReferentialAction := none
  onUpdate : Option ReferentialAction := none
  deriving DecidableEq

structure TableDefinition where
  name : String
  columns : List ColumnDefinition
  foreignKeys : List ForeignKeyDefinition
  deriving DecidableEq

inductive Command
  | select (table : String) (columns : List String) (filter : Filter) (limit : Option Nat)
  | insert (table : String) (columns : List String) (rows : List (List Literal))
      (returning : Option String)
  | update (table : String) (assignments : List (String × Literal)) (filter : Filter)
  | delete (table : String) (filter : Filter)
  | createTable (table : TableDefinition) (ifNotExists : Bool)
  | createUniqueIndex (name table column : String)
  | renameTable (old new : String)
  | addColumn (table : String) (column : ColumnDefinition)
  | dropColumn (table column : String)
  | dropTable (table : String)
  | tableColumns (table : String)
  | tableConstraints (table : String)
  | begin
  | commit
  | rollback
  deriving DecidableEq

end RecordMapper.Sql
