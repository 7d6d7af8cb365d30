import RecordMapper.Database.Affinity
import RecordMapper.Sql.Command

/-!
Tables of an embedded database: their columns, their rows, and what statements make of the rows.

A key of type INTEGER numbers the rows: it is counted up where a row brings none, and rows are found
in its order. All other rows are found in the order in which they came. Where a condition or a
projection names no column of the table, the name stands for itself, as a text.
-/

namespace RecordMapper.Database

open Sql

inductive Refusal
  | noTable (name : String)
  | nameTaken (name : String)
  | reservedName (name : String)
  | noColumn (name : String)
  | duplicateColumn (name : String)
  | severalKeys (table : String)
  | badForeignKey (column : String)
  | cannotAdd (column : String)
  | cannotDrop (name : String)
  | notNull (column : String)
  | notUnique (table : String)
  | notWhole (column : String)
  | rowWidth (table : String)
  | badLimit (limit : Nat)
  | noTransaction
  | openTransaction
  | unsupported
  deriving DecidableEq

def Refusal.message : Refusal → String
  | noTable name => "no such table: " ++ name
  | nameTaken name => "there is already a table or index named " ++ name
  | reservedName name => "object name reserved for internal use: " ++ name
  | noColumn name => "no such column: " ++ name
  | duplicateColumn name => "duplicate column name: " ++ name
  | severalKeys table => "table " ++ table ++ " has more than one primary key"
  | badForeignKey column => "malformed foreign key on " ++ column
  | cannotAdd column => "cannot add column " ++ column
  | cannotDrop name => "cannot drop " ++ name
  | notNull column => "NOT NULL constraint failed: " ++ column
  | notUnique table => "UNIQUE constraint failed: " ++ table
  | notWhole column => "datatype mismatch: " ++ column
  | rowWidth table => "wrong number of values for table " ++ table
  | badLimit limit => "datatype mismatch: LIMIT " ++ String.ofList (Numeral.digits limit)
  | noTransaction => "no transaction is active"
  | openTransaction => "cannot start a transaction within a transaction"
  | unsupported => "statement not supported"

structure StoredTable where
  definition : TableDefinition
  rows : List Row := []
  deriving DecidableEq

/-- The database has no clock: for it, it is always the same time. -/
def clock : String := "1970-01-01 00:00:00"

def literalValue : Literal → Value
  | .integer i => .integer (Int64.ofInt i)
  | .text s => .text s
  | .now => .text clock
  | _ => .null

def literalText : Literal → String
  | .null => "NULL"
  | .default => "DEFAULT"
  | .now => "CURRENT_TIMESTAMP"
  | .integer i => String.ofList (Numeral.writeInt i)
  | .text s => quoteText s

def affinity (c : ColumnDefinition) : Affinity := Affinity.ofType c.type

def isRowNumber (c : ColumnDefinition) : Bool := c.isKey && c.type == "INTEGER"

def accept (c : ColumnDefinition) (v : Value) : Except Refusal Value :=
  let v := (affinity c).store v
  if c.notNull && v.isNull then .error (.notNull c.name)
  else if isRowNumber c && v.integer?.isNone then .error (.notWhole c.name)
  else .ok v

def allDistinct : List Value → Bool
  | [] => true
  | v :: vs => !vs.contains v && allDistinct vs

namespace StoredTable

def name (t : StoredTable) : String := t.definition.name

def columns (t : StoredTable) : List ColumnDefinition := t.definition.columns

def column? (t : StoredTable) (column : String) : Option ColumnDefinition :=
  t.columns.find? fun c => sameName c.name column

def hasColumn (t : StoredTable) (column : String) : Bool := (t.column? column).isSome

def hasForeignColumns (t : StoredTable) : Bool :=
  t.definition.foreignKeys.all fun fk => t.hasColumn fk.column

def position? (t : StoredTable) (column : String) : Option Nat :=
  t.columns.findIdx? fun c => sameName c.name column

def position (t : StoredTable) (column : String) : Except Refusal Nat :=
  match t.position? column with
  | some i => .ok i
  | none => .error (.noColumn column)

def onColumns (t : StoredTable) (change : List ColumnDefinition → List ColumnDefinition) :
    StoredTable :=
  { t with definition := { t.definition with columns := change t.columns } }

def numberPosition? (t : StoredTable) : Option Nat := t.columns.findIdx? isRowNumber

def sortAt (i : Nat) (rows : List Row) : List Row :=
  rows.mergeSort fun r s => (compareValues (r.getD i .null) (s.getD i .null)).isLE

def inOrder (t : StoredTable) (rows : List Row) : List Row :=
  t.numberPosition?.elim rows fun i => sortAt i rows

def ownUniques (t : StoredTable) : List Nat :=
  (t.columns.zipIdx.filter fun c => c.1.isKey || c.1.unique).map Prod.snd

def differAt (rows : List Row) : Option Nat → Bool
  | some i => allDistinct ((rows.map fun row => row.getD i .null).filter fun v => !v.isNull)
  | none => rows.length ≤ 1

def withRows (t : StoredTable) (uniques : List (Option Nat)) (rows : List Row) :
    Except Refusal StoredTable :=
  if uniques.all (differAt rows) then .ok { t with rows := t.inOrder rows }
  else .error (.notUnique t.name)

def nextNumber (t : StoredTable) (i : Nat) : Value :=
  let numbers := t.rows.filterMap fun row => row[i]?.bind Value.integer?
  .integer (numbers.max?.elim 1 (· + 1))

def fullRow (t : StoredTable) (positions : List Nat) (literals : List Literal) :
    Except Refusal Row :=
  if positions.length ≠ literals.length then .error (.rowWidth t.name)
  else t.columns.zipIdx.mapM fun (c, i) =>
    let given := ((positions.zip literals).lookup i).map literalValue
    if isRowNumber c && given.all Value.isNull then .ok (t.nextNumber i)
    else accept c (given.getD (c.default.elim .null literalValue))

def insertRows (t : StoredTable) (uniques : List (Option Nat)) (positions : List Nat) :
    List (List Literal) → Except Refusal (List Row × StoredTable)
  | [] => .ok ([], t)
  | literals :: rest => do
    let row ← t.fullRow positions literals
    let (rows, t) ← (← t.withRows uniques (t.rows ++ [row])).insertRows uniques positions rest
    return (row :: rows, t)

def lookup (t : StoredTable) (row : Row) (column : String) : Value :=
  (t.position? column).elim (.text column) fun i => row.getD i .null

/-- A literal compared with a column is read as the column would store it; a pattern is not. -/
def operand (t : StoredTable) (column : String) (op : Operator) (l : Literal) : Value :=
  let v := literalValue l
  if op = .like ∨ op = .notLike then v
  else (t.column? column).elim v fun c => (affinity c).store v

def satisfies (t : StoredTable) (row : Row) : Condition → Bool
  | .isNull column => (t.lookup row column).isNull
  | .isNotNull column => !(t.lookup row column).isNull
  | .compare column op l =>
    compares? op (t.lookup row column) (t.operand column op l) == some true

def selects (t : StoredTable) (filter : Filter) (row : Row) : Bool :=
  filter = [] || filter.any fun group => group.all (t.satisfies row)

def boundsRange (t : StoredTable) (i : Nat) : Filter → Bool
  | [group] => group.any fun
    | .compare column op _ => t.position? column == some i && [.lt, .le, .gt, .ge].contains op
    | _ => false
  | _ => false

def answersAt (t : StoredTable) (i : Nat) (columns : List String) : Bool :=
  let known := columns.filterMap t.position?
  known.contains i && known.all (fun j => j == i || some j == t.numberPosition?) &&
    t.columns.length > if t.numberPosition?.isSome then 2 else 1

/-- A query reads the rows in the order of a position where an index on it serves: for a range of
values there, or where nothing else of the row is needed. -/
def scanPosition? (t : StoredTable) (uniques : List (Option Nat)) (columns : List String)
    (filter : Filter) : Option Nat :=
  let indexed := uniques.filterMap fun i => if i == t.numberPosition? then none else i
  if t.numberPosition?.any fun i => t.boundsRange i filter then none
  else (indexed.find? fun i => t.boundsRange i filter).or
    (indexed.find? fun i => t.answersAt i columns)

def update (t : StoredTable) (uniques : List (Option Nat)) (assignments : List (String × Literal))
    (filter : Filter) : Except Refusal (Nat × StoredTable) := do
  let changes ← assignments.mapM fun (column, l) => do return (← t.position column, literalValue l)
  let change (row : Row) : Row := changes.foldl (fun row c => row.set c.1 c.2) row
  let rows ← t.rows.mapM fun row =>
    if t.selects filter row then (t.columns.zip (change row)).mapM fun (c, v) => accept c v
    else .ok row
  return ((t.rows.filter (t.selects filter)).length, ← t.withRows uniques rows)

def describeColumns (t : StoredTable) : List Row :=
  t.columns.zipIdx.map fun (c, i) =>
    [.integer (Int64.ofNat i), .text c.name, .text c.type,
      .integer (if c.notNull then 1 else 0),
      c.default.elim .null fun l => .text (literalText l),
      .integer (if c.isKey then 1 else 0)]

def actionText (action : Option ReferentialAction) : Value :=
  .text ((action.getD .noAction).sql)

def describeForeignKeys (t : StoredTable) : List Row :=
  t.definition.foreignKeys.reverse.zipIdx.flatMap fun (fk, i) =>
    let column := (t.column? fk.column).elim fk.column ColumnDefinition.name
    fk.parentColumns.zipIdx.map fun (parent, j) =>
      [.integer (Int64.ofNat i), .integer (Int64.ofNat j), .text fk.parentTable, .text column,
        .text parent, actionText fk.onUpdate, actionText fk.onDelete, .text "NONE"]

end StoredTable

end RecordMapper.Database
