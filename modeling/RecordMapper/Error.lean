import RecordMapper.Value
import RecordMapper.Condition.Operator

namespace RecordMapper

inductive ColumnKind
  | boolean
  | integer
  | string
  | datetime
  | primaryKey
  deriving DecidableEq

def ColumnKind.name : ColumnKind → String
  | boolean => "boolean"
  | integer => "integer"
  | string => "string"
  | datetime => "datetime"
  | primaryKey => "primary key"

inductive Invalid
  | mismatch (expected : ValueKind) (found : Value)
  | outOfRange (i : Int64)
  | notBoolean (i : Int64)
  | badDefault (value : Value) (kind : ColumnKind)
  | badLiteral (value : Value) (kind : ColumnKind)
  | noColumn (table column : String)
  | notNullable (table column : String)
  | badValue (value : Value) (table column : String)
  | inField (table column : String) (cause : Invalid)
  | stated (text : String)
  deriving DecidableEq

inductive NoAutoincrement
  | wraps (kind : ColumnKind)
  | stated (text : String)
  deriving DecidableEq

inductive MixedModels
  | found (table other : String)
  | stated (text : String)
  deriving DecidableEq

inductive Misuse
  | noColumn (table column : String)
  | nullComparison (op : Operator)
  | secondFilter
  | noFilter
  | nothingToSet
  | notConnected
  | noDatabasePath
  | malformedUrl (url : String)
  | badPort (port : String)
  | stated (text : String)
  deriving DecidableEq

inductive Unreadable
  | rowWidth (table : String) (found expected : Nat)
  | noRowColumn (index : Nat)
  | nullRowColumn (index : Nat)
  | badDefault (raw column : String)
  | storageClass (name : String) (index : Nat)
  | stated (text : String)
  deriving DecidableEq

inductive Error
  | validation (cause : Invalid)
  | autoincrementType (cause : NoAutoincrement)
  | differentModels (cause : MixedModels)
  | unknownDriver (name : String)
  | invalidArgument (cause : Misuse)
  | conversion (cause : Unreadable)
  | database (text : String)
  | io (text : String)
  deriving DecidableEq

inductive ErrorKind
  | validation
  | autoincrementType
  | differentModels
  | unknownDriver
  | invalidArgument
  | conversion
  | database
  | io
  deriving DecidableEq

def number (n : Nat) : String := String.ofList (Numeral.digits n)

def ValueKind.withArticle : ValueKind → String
  | boolean => "a boolean"
  | integer => "an integer"
  | real => "a real"
  | text => "a string"
  | timestamp => "a timestamp"

namespace Invalid

def message : Invalid → String
  | mismatch expected found =>
    "expected " ++ expected.withArticle ++ ", got " ++
      if found.isNull then "NULL on a non-nullable field" else found.inMessage
  | outOfRange i => "integer " ++ (Value.integer i).display ++ " does not fit in i32"
  | notBoolean i =>
    "integer " ++ (Value.integer i).display ++ " is not a boolean (expected 0 or 1)"
  | badDefault value kind =>
    "default " ++ value.inMessage ++ " is not valid for a " ++ kind.name ++ " column"
  | badLiteral value kind =>
    "value " ++ value.inMessage ++ " is not valid for a " ++ kind.name ++ " column"
  | noColumn table column => "table " ++ table ++ " has no column " ++ column
  | notNullable table column => "column " ++ table ++ "." ++ column ++ " is not nullable"
  | badValue value table column =>
    "value " ++ value.inMessage ++ " is not valid for column " ++ table ++ "." ++ column
  | inField table column cause => table ++ "." ++ column ++ ": " ++ cause.message
  | stated text => text

end Invalid

def NoAutoincrement.message : NoAutoincrement → String
  | wraps kind => "autoincrement primary key must wrap an integer, got " ++ kind.name
  | stated text => text

def MixedModels.message : MixedModels → String
  | found table other =>
    "all items should be " ++ table ++ " models, found a " ++ other ++ " model"
  | stated text => text

def Misuse.message : Misuse → String
  | noColumn table column => "table " ++ table ++ " has no column " ++ column
  | nullComparison op => "NULL cannot be compared with " ++ op.sql
  | secondFilter => "filter() may only be called once per statement"
  | noFilter => "and()/or() must follow filter()"
  | nothingToSet => "update has no values to set"
  | notConnected => "session is not connected"
  | noDatabasePath => "sqlite url has no database path"
  | malformedUrl url => "malformed database url " ++ url
  | badPort port => "invalid port " ++ port ++ " in database url"
  | stated text => text

def Unreadable.message : Unreadable → String
  | rowWidth table found expected =>
    "row for table " ++ table ++ " has " ++ number found ++ " values, expected " ++ number expected
  | noRowColumn index => "introspection row has no column " ++ number index
  | nullRowColumn index => "introspection column " ++ number index ++ " is NULL"
  | badDefault raw column =>
    "cannot decode default " ++ String.ofList (Text.escape raw.toList) ++ " for column " ++ column
  | storageClass name index =>
    "unsupported SQLite storage class " ++ name ++ " in column " ++ number index
  | stated text => text

namespace Error

def kind : Error → ErrorKind
  | validation _ => .validation
  | autoincrementType _ => .autoincrementType
  | differentModels _ => .differentModels
  | unknownDriver _ => .unknownDriver
  | invalidArgument _ => .invalidArgument
  | conversion _ => .conversion
  | database _ => .database
  | io _ => .io

def message : Error → String
  | validation cause => "Validation error: " ++ cause.message
  | autoincrementType cause => "Autoincrement type error: " ++ cause.message
  | differentModels cause => "Different models type error: " ++ cause.message
  | unknownDriver name => "Unknown driver " ++ name
  | invalidArgument cause => "Invalid argument: " ++ cause.message
  | conversion cause => "Type conversion error: " ++ cause.message
  | database text => "Database error: " ++ text
  | io text => "I/O error: " ++ text

def rowNotFound : Error :=
  .database "no rows returned by a query that expected to return at least one row"

def unexpectedData (text : String) : Error :=
  .database ("encountered unexpected or invalid data: " ++ text)

end Error

end RecordMapper
