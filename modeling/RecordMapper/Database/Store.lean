import RecordMapper.Database.Table

namespace RecordMapper.Database

open Sql

structure StoredIndex where
  name : String
  table : String
  column : String
  deriving DecidableEq

structure Store where
  tables : List StoredTable := []
  indexes : List StoredIndex := []
  deriving DecidableEq

structure Answer where
  rows : List Row := []
  affected : Option Nat := none

def isReserved (name : String) : Bool := sameName (String.ofList (name.toList.take 7)) "sqlite_"

def isCatalog (name : String) : Bool :=
  ["sqlite_master", "sqlite_schema", "sqlite_temp_master", "sqlite_temp_schema"].any (sameName name)

def catalog : StoredTable where
  definition := {
    name := "sqlite_master"
    columns := [
      { name := "type", type := "TEXT" }, { name := "name", type := "TEXT" },
      { name := "tbl_name", type := "TEXT" }, { name := "rootpage", type := "INT" },
      { name := "sql", type := "TEXT" }]
    foreignKeys := [] }

namespace Store

def table? (s : Store) (name : String) : Option StoredTable :=
  s.tables.find? fun t => sameName t.name name

def table (s : Store) (name : String) : Except Refusal StoredTable :=
  match s.table? name with
  | some t => .ok t
  | none => .error (.noTable name)

def describable? (s : Store) (name : String) : Option StoredTable :=
  if isCatalog name then some catalog else s.table? name

def hasIndex (s : Store) (name : String) : Bool := s.indexes.any fun i => sameName i.name name

def replace (s : Store) (name : String) (t : StoredTable) : Store :=
  { s with tables := s.tables.map fun u => if sameName u.name name then t else u }

def listTables (s : Store) : List String :=
  let names := s.tables.map StoredTable.name
  (names.filter fun name => !like "sqlite_%".toList name.toList).mergeSort fun a b => a ≤ b

/-- Where the rows of a table have to differ. An index on a name that is no column keeps apart the
name itself, which is the same in every row. -/
def uniques (s : Store) (t : StoredTable) : List (Option Nat) :=
  t.ownUniques.map some ++
    (s.indexes.filter fun i => sameName i.table t.name).map fun i => t.position? i.column

def hasIndexedColumns (s : Store) : Bool :=
  s.indexes.all fun i => (s.table? i.table).any fun t => t.hasColumn i.column

def checkColumns (t : TableDefinition) : List ColumnDefinition → Except Refusal Unit
  | [] =>
    if 1 < (t.columns.map ColumnDefinition.keys).sum then .error (.severalKeys t.name) else .ok ()
  | c :: cs =>
    if cs.any fun d => sameName c.name d.name then .error (.duplicateColumn c.name)
    else checkColumns t cs

def checkForeignKey (t : StoredTable) (fk : ForeignKeyDefinition) : Except Refusal Unit :=
  if fk.parentColumns.length = 1 && t.hasColumn fk.column then .ok ()
  else .error (.badForeignKey fk.column)

def createTable (s : Store) (t : TableDefinition) (ifNotExists : Bool) : Except Refusal Store := do
  if t.columns = [] || t.foreignKeys.any fun fk => fk.parentColumns = [] then throw .unsupported
  if isReserved t.name then throw (.reservedName t.name)
  if (s.table? t.name).isSome then
    if ifNotExists then return s else throw (.nameTaken t.name)
  if s.hasIndex t.name then throw (.nameTaken t.name)
  checkColumns t t.columns
  let created : StoredTable := { definition := t }
  t.foreignKeys.forM (checkForeignKey created)
  return { s with tables := s.tables ++ [created] }

def createUniqueIndex (s : Store) (name table column : String) : Except Refusal Store := do
  let t ← s.table table
  if isReserved name then throw (.reservedName name)
  if (s.table? name).isSome then throw (.nameTaken name)
  if s.hasIndex name then return s
  let s := { s with indexes := s.indexes ++ [{ name, table, column }] }
  discard <| t.withRows (s.uniques t) t.rows
  return s

def renameTable (s : Store) (old new : String) : Except Refusal Store := do
  let t ← s.table old
  if isReserved new then throw (.reservedName new)
  if (s.table? new).isSome || s.hasIndex new then throw (.nameTaken new)
  let renamed := s.replace old { t with definition := { t.definition with name := new } }
  let follow (fk : ForeignKeyDefinition) : ForeignKeyDefinition :=
    if sameName fk.parentTable old then { fk with parentTable := new } else fk
  let retarget (u : TableDefinition) : TableDefinition :=
    { u with foreignKeys := u.foreignKeys.map follow }
  return {
    tables := renamed.tables.map fun u => { u with definition := retarget u.definition }
    indexes := s.indexes.map fun i => if sameName i.table old then { i with table := new } else i }

def addColumn (s : Store) (table : String) (c : ColumnDefinition) : Except Refusal Store := do
  let t ← s.table table
  if c.isKey || c.unique then throw (.cannotAdd c.name)
  if t.hasColumn c.name then throw (.duplicateColumn c.name)
  let isNull := c.default.all (· == .null)
  if t.rows ≠ [] && ((c.notNull && isNull) || c.default == some .now) then
    throw (.cannotAdd c.name)
  let value := (affinity c).store (c.default.elim .null literalValue)
  let filled := { t with rows := t.rows.map fun row => row ++ [value] }
  return s.replace table (filled.onColumns (· ++ [c]))

def dropColumn (s : Store) (table column : String) : Except Refusal Store := do
  let t ← s.table table
  let i ← t.position column
  let cut :=
    { t with rows := t.rows.map fun (row : Row) => row.eraseIdx i }.onColumns (·.eraseIdx i)
  let changed := s.replace table cut
  if t.ownUniques.contains i || cut.columns = [] || !cut.hasForeignColumns ||
      !changed.hasIndexedColumns then
    throw (.cannotDrop column)
  return changed

def dropTable (s : Store) (name : String) : Except Refusal Store :=
  if isCatalog name then .error (.cannotDrop name)
  else .ok {
    tables := s.tables.filter fun t => !sameName t.name name
    indexes := s.indexes.filter fun i => !sameName i.table name }

def checkLimit : (limit : Option Nat) → Except Refusal Unit
  | some n => if Numeral.fitsSigned 64 n then .ok () else .error (.badLimit n)
  | none => .ok ()

def select (s : Store) (table : String) (columns : List String) (filter : Filter)
    (limit : Option Nat) : Except Refusal Answer := do
  let t ← s.table table
  checkLimit limit
  let rows := (t.scanPosition? (s.uniques t) columns filter).elim t.rows fun i =>
    StoredTable.sortAt i t.rows
  let rows := rows.filter (t.selects filter)
  let rows := if columns = [] then rows else rows.map fun row => columns.map (t.lookup row)
  return { rows := limit.elim rows rows.take }

def insert (s : Store) (table : String) (columns : List String) (rows : List (List Literal))
    (returning : Option String) : Except Refusal (Answer × Store) := do
  if columns = [] || rows.any (·.contains .default) then throw .unsupported
  let t ← s.table table
  let positions ← columns.mapM t.position
  let (added, t) ← t.insertRows (s.uniques t) positions rows
  let answered := returning.elim [] fun column => added.map fun row => [t.lookup row column]
  return ({ rows := answered, affected := some added.length }, s.replace table t)

def update (s : Store) (table : String) (assignments : List (String × Literal)) (filter : Filter) :
    Except Refusal (Answer × Store) := do
  let t ← s.table table
  let (affected, t) ← t.update (s.uniques t) assignments filter
  return ({ affected := some affected }, s.replace table t)

def delete (s : Store) (table : String) (filter : Filter) : Except Refusal (Answer × Store) := do
  let t ← s.table table
  let (gone, kept) := t.rows.partition (t.selects filter)
  return ({ affected := some gone.length }, s.replace table { t with rows := kept })

def apply (s : Store) : Command → Except Refusal (Answer × Store)
  | .select table columns filter limit => do return (← s.select table columns filter limit, s)
  | .insert table columns rows returning => s.insert table columns rows returning
  | .update table assignments filter => s.update table assignments filter
  | .delete table filter => s.delete table filter
  | .createTable t ifNotExists => do return ({}, ← s.createTable t ifNotExists)
  | .createUniqueIndex name table column => do return ({}, ← s.createUniqueIndex name table column)
  | .renameTable old new => do return ({}, ← s.renameTable old new)
  | .addColumn table c => do return ({}, ← s.addColumn table c)
  | .dropColumn table column => do return ({}, ← s.dropColumn table column)
  | .dropTable name => do return ({}, ← s.dropTable name)
  | .tableColumns name =>
    .ok ({ rows := (s.describable? name).elim [] StoredTable.describeColumns }, s)
  | .tableConstraints name =>
    .ok ({ rows := (s.describable? name).elim [] StoredTable.describeForeignKeys }, s)
  | _ => .error .unsupported

end Store

end RecordMapper.Database
