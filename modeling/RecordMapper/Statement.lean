import RecordMapper.Dialect

namespace RecordMapper.Statement

def commaList (parts : List String) : String := ", ".intercalate parts

def nameList (names : List String) : String := commaList (names.map quoteName)

/-- The conditions of a statement; after the first, each begins with its own connective. -/
def whereClause (conditions : List String) : String :=
  if conditions = [] then "" else " WHERE " ++ " ".intercalate conditions

def createTable (table : String) (columns : List String) (ifNotExists : Bool)
    (foreignKeys : List String) : String :=
  "CREATE TABLE " ++ (if ifNotExists then Keyword.ifNotExists ++ " " else "") ++ quoteName table ++
    " (" ++ commaList (columns ++ foreignKeys) ++ ");"

def indexName (table column : String) : String := table ++ "_" ++ column ++ "_idx"

def createUniqueIndex (table column : String) : String :=
  "CREATE UNIQUE INDEX " ++ Keyword.ifNotExists ++ " " ++ quoteName (indexName table column) ++
    " ON " ++ quoteName table ++ " (" ++ quoteName column ++ ");"

def renameTable (old new : String) : String :=
  "ALTER TABLE " ++ quoteName old ++ " RENAME TO " ++ quoteName new ++ ";"

def addColumn (table column : String) : String :=
  "ALTER TABLE " ++ quoteName table ++ " ADD COLUMN " ++ column ++ ";"

def dropColumn (table column : String) : String :=
  "ALTER TABLE " ++ quoteName table ++ " DROP COLUMN " ++ quoteName column ++ ";"

def dropTable (table : String) : String := "DROP TABLE IF EXISTS " ++ quoteName table ++ ";"

def clearDatabase : Dialect → (tables : List String) → List String
  | .postgres, _ =>
    ["DROP SCHEMA public CASCADE;", "CREATE SCHEMA public;",
      "GRANT ALL ON SCHEMA public TO public;"]
  | .sqlite, tables => tables.map dropTable

def select (table : String) (columns : List String) (conditions : List String)
    (limit : Option Nat) : String :=
  "SELECT " ++ (if columns = [] then "*" else nameList columns) ++ " FROM " ++ quoteName table ++
    whereClause conditions ++
    (match limit with
      | none => ""
      | some n => " LIMIT " ++ String.ofList (Numeral.digits n)) ++ ";"

def insert (table : String) (columns : List String) (rows : List (List String))
    (returning : Option String) : String :=
  "INSERT INTO " ++ quoteName table ++ " (" ++ nameList columns ++ ") VALUES " ++
    commaList (rows.map fun row => "(" ++ commaList row ++ ")") ++
    (match returning with
      | none => ""
      | some column => " RETURNING " ++ quoteName column) ++ ";"

def update (table : String) (assignments conditions : List String) : String :=
  "UPDATE " ++ quoteName table ++ " SET " ++ commaList assignments ++ whereClause conditions ++ ";"

def delete (table : String) (conditions : List String) : String :=
  "DELETE FROM " ++ quoteName table ++ whereClause conditions ++ ";"

end RecordMapper.Statement
