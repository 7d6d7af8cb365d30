import RecordMapper.Catalog
import RecordMapper.Schema
import RecordMapper.Session

namespace RecordMapper.Migration

def run (c : Connection σ) (sql : String) : SessionM σ Unit := do
  discard <| Session.execute c sql
  Session.commit c

def uniqueIndexes (d : Dialect) (s : Schema) : List String :=
  if d.inlineUnique then []
  else (s.columns.filter fun col => col.unique && !col.isPrimaryKey).map fun col =>
    Statement.createUniqueIndex s.table col.name

def runAll (c : Connection σ) : List String → SessionM σ Unit
  | [] => pure ()
  | sql :: rest => do
    run c sql
    runAll c rest

def createTableSql (d : Dialect) (s : Schema) : Except Error String := do
  let columns ← s.columns.mapM (Column.sql d)
  return Statement.createTable s.table columns true (s.foreignKeys.map ForeignKey.sql)

def createTable (c : Connection σ) (s : Schema) : SessionM σ Unit := do
  let d := (← get).dialect
  run c (← Session.liftExcept (createTableSql d s))
  Session.report .info ("Created table " ++ s.table)
  runAll c (uniqueIndexes d s)

def tableList (c : Connection σ) : SessionM σ (List String) := do
  let rows ← Session.fetchAll c (Catalog.tableList (← get).dialect)
  Session.liftExcept (rows.mapM fun row => Catalog.requiredTextAt row 0)

def tableColumns (c : Connection σ) (table : String) : SessionM σ (List ColumnInfo) := do
  let d := (← get).dialect
  let rows ← Session.fetchAll c (Catalog.tableColumns d table)
  Session.liftExcept (rows.mapM (Catalog.columnInfo d))

def tableConstraints (c : Connection σ) (table : String) : SessionM σ (List ConstraintInfo) := do
  let d := (← get).dialect
  let rows ← Session.fetchAll c (Catalog.tableConstraints d table)
  Session.liftExcept (rows.mapM (Catalog.constraintInfo d table))

def renameTable (c : Connection σ) (old new : String) : SessionM σ Unit := do
  Session.report .info ("Renaming table " ++ old ++ " to " ++ new)
  run c (Statement.renameTable old new)

def addColumn (c : Connection σ) (table : String) (col : Column) : SessionM σ Unit := do
  let d := (← get).dialect
  Session.report .info ("Adding column " ++ table ++ "." ++ col.name)
  run c (Statement.addColumn table (← Session.liftExcept (col.sql d)))
  if col.unique && !d.inlineUnique then run c (Statement.createUniqueIndex table col.name)

def dropColumn (c : Connection σ) (table column : String) : SessionM σ Unit := do
  Session.report .info ("Dropping column " ++ table ++ "." ++ column)
  run c (Statement.dropColumn table column)

def dropTable (c : Connection σ) (table : String) : SessionM σ Unit := do
  Session.report .info ("Dropping table " ++ table)
  run c (Statement.dropTable table)

end RecordMapper.Migration
