import RecordMapper.Dialect
import RecordMapper.Field
import RecordMapper.Time.Reading

namespace RecordMapper

inductive Default
  | literal (value : Value)
  | now
  deriving DecidableEq

def Default.sql (d : Dialect) : Default → String
  | literal value => d.literal value
  | now => d.now

/-- The default of a type may be anything that can tell what a new row holds; only what writes a
type asks for more of it. -/
inductive ColumnType (δ : Type := Default)
  | boolean (default : Option δ)
  | integer (default : Option δ)
  | string (length : Nat) (default : Option δ)
  | datetime (default : Option δ)
  | primaryKey (inner : ColumnType δ) (autoincrement : Bool)
  deriving DecidableEq

namespace ColumnType

def defaultLength : Nat := 255

def plainBoolean : ColumnType := boolean none

def plainInteger : ColumnType := integer none

def plainString : ColumnType := string defaultLength none

def plainDatetime : ColumnType := datetime none

def kind : ColumnType → ColumnKind
  | boolean _ => .boolean
  | integer _ => .integer
  | string .. => .string
  | datetime _ => .datetime
  | primaryKey .. => .primaryKey

def withDefault (default : δ) : ColumnType δ → ColumnType δ
  | boolean _ => boolean default
  | integer _ => integer default
  | string length _ => string length default
  | datetime _ => datetime default
  | primaryKey inner autoincrement => primaryKey (inner.withDefault default) autoincrement

def withLength (length : Nat) : ColumnType δ → ColumnType δ
  | string _ default => string length default
  | primaryKey inner autoincrement => primaryKey (inner.withLength length) autoincrement
  | t => t

def isPrimaryKey : ColumnType δ → Bool
  | primaryKey .. => true
  | _ => false

def isInteger : ColumnType δ → Bool
  | integer _ => true
  | _ => false

def isAutoincrement : ColumnType δ → Bool
  | primaryKey inner autoincrement => autoincrement && inner.isInteger
  | _ => false

def default? : ColumnType → Option Default
  | boolean default => default
  | integer default => default
  | string _ default => default
  | datetime default => default
  | primaryKey .. => none

def admits : ColumnType δ → ValueKind
  | boolean _ => .boolean
  | integer _ => .integer
  | string .. => .text
  | datetime _ => .timestamp
  | primaryKey inner _ => inner.admits

/-- NULL is never valid here: whether it is allowed belongs to the column. -/
def validate (t : ColumnType δ) (v : Value) : Bool := v.kind? = some t.admits

def readBoolean? (s : String) : Option Bool :=
  if s = "t" ∨ s = "true" ∨ s = "TRUE" then some true
  else if s = "f" ∨ s = "false" ∨ s = "FALSE" then some false
  else none

/-- Turns a raw value of a row into what the column holds, where it can: databases without booleans
report zero and one, and timestamps may arrive as text. -/
def coerce : ColumnType δ → Value → Except Error Value
  | primaryKey inner _, v => inner.coerce v
  | boolean _, .integer i =>
    if i = 0 then .ok (.boolean false)
    else if i = 1 then .ok (.boolean true)
    else .error (.validation (.notBoolean i))
  | boolean _, .text s => .ok ((readBoolean? s).elim (.text s) .boolean)
  | datetime _, .text s => .ok ((Timestamp.read? s.toList).elim (.text s) .timestamp)
  | _, v => .ok v

def keyword (d : Dialect) : ColumnType → String
  | boolean _ => d.booleanColumn
  | integer _ => d.integerColumn
  | string length _ => d.stringColumn length
  | datetime _ => d.timestampColumn
  | primaryKey inner _ => inner.keyword d

def defaultClause (d : Dialect) (t : ColumnType) : Except Error String :=
  match t.default? with
  | none => .ok ""
  | some (.literal v) =>
    if v.isNull || t.validate v then
      .ok (" " ++ Keyword.default ++ " " ++ (Default.literal v).sql d)
    else .error (.validation (.badDefault v t.kind))
  | some .now => .ok (" " ++ Keyword.default ++ " " ++ Default.now.sql d)

def sql (d : Dialect) : ColumnType → Except Error String
  | primaryKey inner autoincrement =>
    if autoincrement && !inner.isInteger then .error (.autoincrementType (.wraps inner.kind))
    else do
      let head ← match autoincrement, d.autoincrement? with
        | true, some counted => .ok counted
        | _, _ => inner.sql d
      return head ++ " " ++ Keyword.primaryKey
  | t => do return t.keyword d ++ (← t.defaultClause d)

def literal (d : Dialect) (t : ColumnType) (v : Value) : Except Error String :=
  if v.isNull && t.isAutoincrement then .ok d.autoincrementDefault
  else if v.isNull || t.validate v then .ok (d.literal v)
  else .error (.validation (.badLiteral v t.kind))

end ColumnType

def FieldType.columnType : FieldType → ColumnType
  | boolean => .plainBoolean
  | int32 => .plainInteger
  | int64 => .plainInteger
  | string => .plainString
  | timestamp => .plainDatetime
  | optional inner => inner.columnType

end RecordMapper
