import RecordMapper.ColumnType
import RecordMapper.Text.Split

namespace RecordMapper

structure ColumnInfo where
  name : String
  -- The default as the database spells it.
  default : Option String
  nullable : Bool
  dataType : String
  maximumLength : Option Int64 := none
  deriving DecidableEq

structure ConstraintInfo where
  tableSchema : Option String
  name : Option String
  table : String
  column : String
  foreignTableSchema : Option String
  foreignTable : String
  foreignColumn : String
  deriving DecidableEq

namespace Catalog

def textAt (row : Row) (index : Nat) : Except Error (Option String) :=
  match row[index]? with
  | none => .error (.conversion (.noRowColumn index))
  | some .null => .ok none
  | some v => .ok (some v.display)

def requiredTextAt (row : Row) (index : Nat) : Except Error String := do
  match ← textAt row index with
  | none => .error (.conversion (.nullRowColumn index))
  | some text => .ok text

def columnInfo (d : Dialect) (row : Row) : Except Error ColumnInfo :=
  match d with
  | .postgres => do
    let name ← requiredTextAt row 0
    let default ← textAt row 1
    let nullable := (← textAt row 2) == some "YES"
    let dataType ← requiredTextAt row 3
    return { name, default, nullable, dataType, maximumLength := row[4]?.bind Value.integer? }
  | .sqlite => do
    let name ← requiredTextAt row 1
    let default ← textAt row 4
    let nullable := row[3]?.bind Value.integer? == some 0
    let dataType ← requiredTextAt row 2
    return { name, default, nullable, dataType }

def constraintInfo (d : Dialect) (asked : String) (row : Row) : Except Error ConstraintInfo :=
  match d with
  | .postgres => do
    let tableSchema ← textAt row 0
    let name ← textAt row 1
    let table ← requiredTextAt row 2
    let column ← requiredTextAt row 3
    let foreignTableSchema ← textAt row 4
    let foreignTable ← requiredTextAt row 5
    let foreignColumn ← requiredTextAt row 6
    return { tableSchema, name, table, column, foreignTableSchema, foreignTable, foreignColumn }
  | .sqlite => do
    let column ← requiredTextAt row 3
    let foreignTable ← requiredTextAt row 2
    let foreignColumn ← requiredTextAt row 4
    return {
      tableSchema := none, name := none, table := asked, column, foreignTableSchema := none,
      foreignTable, foreignColumn }

def tableList : Dialect → String
  | .postgres =>
    "SELECT table_name::text FROM information_schema.tables " ++
      "WHERE table_schema = 'public' AND table_type = 'BASE TABLE' ORDER BY table_name;"
  | .sqlite =>
    "SELECT name FROM sqlite_master " ++
      "WHERE type = 'table' AND name NOT LIKE 'sqlite_%' ORDER BY name;"

def tableColumns (d : Dialect) (table : String) : String :=
  match d with
  | .postgres =>
    "SELECT column_name::text, column_default::text, is_nullable::text, data_type::text, " ++
      "character_maximum_length::bigint FROM information_schema.columns " ++
      "WHERE table_schema = 'public' AND table_name = " ++ quoteText table ++
      " ORDER BY ordinal_position;"
  | .sqlite => "PRAGMA table_info(" ++ quoteName table ++ ");"

def tableConstraints (d : Dialect) (table : String) : String :=
  match d with
  | .postgres =>
    "SELECT tc.table_schema::text AS ts, tc.constraint_name::text AS cn, " ++
      "tc.table_name::text AS tn, " ++
      "kcu.column_name::text AS kn, ccu.table_schema::text AS foreign_table_schema, " ++
      "ccu.table_name::text AS foreign_table_name, " ++
      "ccu.column_name::text AS foreign_column_name " ++
      "FROM information_schema.table_constraints AS tc " ++
      "JOIN information_schema.key_column_usage AS kcu " ++
      "ON tc.constraint_name = kcu.constraint_name AND tc.table_schema = kcu.table_schema " ++
      "JOIN information_schema.constraint_column_usage AS ccu " ++
      "ON ccu.constraint_name = tc.constraint_name " ++
      "WHERE tc.table_schema = 'public' AND tc.table_name = " ++ quoteText table ++
      " GROUP BY ts, cn, tn, kn, foreign_table_schema, foreign_table_name, foreign_column_name;"
  | .sqlite => "PRAGMA foreign_key_list(" ++ quoteName table ++ ");"

def splitDefault (raw : List Char) : List Char × Bool :=
  let text := Text.trim raw
  match Text.readQuoted? '\'' text with
  | some (body, _) => (body, true)
  | none =>
    match Text.splitFirst? [':', ':'] text with
    | some (head, _) => (Text.trim head, false)
    | none => (text, false)

def readBooleanDefault? (text : List Char) : Option Bool :=
  let word := String.ofList (text.map Char.toLower)
  if word = "t" ∨ word = "true" ∨ word = "1" then some true
  else if word = "f" ∨ word = "false" ∨ word = "0" then some false
  else none

/-- The value that a default text denotes for a type; a timestamp may be computed, and then there is
none. -/
def decodeDefault (undecodable : Error) (text : List Char) (isQuoted : Bool) :
    ColumnType → Except Error (Option Value)
  | .primaryKey inner _ => decodeDefault undecodable text isQuoted inner
  | .boolean _ =>
    match readBooleanDefault? text with
    | some b => .ok (some (.boolean b))
    | none => .error undecodable
  | .integer _ =>
    match Numeral.readInt64? text with
    | some i => .ok (some (.integer i))
    | none => .error undecodable
  | .string .. => if isQuoted then .ok (some (.text (String.ofList text))) else .error undecodable
  | .datetime _ => .ok ((Timestamp.read? text).map .timestamp)

end Catalog

def ColumnInfo.defaultValue (info : ColumnInfo) (t : ColumnType) : Except Error (Option Value) :=
  match info.default with
  | none => .ok none
  | some raw =>
    let (text, isQuoted) := Catalog.splitDefault raw.toList
    Catalog.decodeDefault (.conversion (.badDefault raw info.name)) text isQuoted t

end RecordMapper
