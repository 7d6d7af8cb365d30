import RecordMapper.Sql.Command
import RecordMapper.Sql.Token

/-!
Reading a statement. A list is cut at its commas before its items are read, a condition at its `OR`s
and then at its `AND`s, so that everything here follows the list of tokens.
-/

namespace RecordMapper.Sql

def untilClosing? : (depth : Nat) → List Token → Option (List Token × List Token)
  | _, [] => none
  | 0, .symbol ")" :: ts => some ([], ts)
  | depth + 1, .symbol ")" :: ts =>
    (untilClosing? depth ts).map fun r => (.symbol ")" :: r.1, r.2)
  | depth, .symbol "(" :: ts =>
    (untilClosing? (depth + 1) ts).map fun r => (.symbol "(" :: r.1, r.2)
  | depth, t :: ts => (untilClosing? depth ts).map fun r => (t :: r.1, r.2)

def consFirst (t : Token) : List (List Token) → List (List Token)
  | [] => [[t]]
  | ts :: rest => (t :: ts) :: rest

def splitCommas : (depth : Nat) → List Token → List (List Token)
  | _, [] => [[]]
  | 0, .symbol "," :: ts => [] :: splitCommas 0 ts
  | depth, .symbol "(" :: ts => consFirst (.symbol "(") (splitCommas (depth + 1) ts)
  | depth, .symbol ")" :: ts => consFirst (.symbol ")") (splitCommas (depth - 1) ts)
  | depth, t :: ts => consFirst t (splitCommas depth ts)

def listItems : List Token → List (List Token)
  | [] => []
  | ts => splitCommas 0 ts

def name? : List Token → Option String
  | [.name s] => some s
  | _ => none

def names? (ts : List Token) : Option (List String) := (listItems ts).mapM name?

def parenthesised? : List Token → Option (List Token × List Token)
  | .symbol "(" :: ts => untilClosing? 0 ts
  | _ => none

def literal? : List Token → Option Literal
  | [.word "NULL"] => some .null
  | [.word "DEFAULT"] => some .default
  | [.word "CURRENT_TIMESTAMP"] => some .now
  | [.word "now", .symbol "(", .symbol ")"] => some .now
  | [.number n] => some (.integer n)
  | [.symbol "-", .number n] => some (.integer (-n))
  | [.text s] => some (.text s)
  | _ => none

def condition? : List Token → Option Condition
  | [.name column, .word "IS", .word "NULL"] => some (.isNull column)
  | [.name column, .word "IS", .word "NOT", .word "NULL"] => some (.isNotNull column)
  | .name column :: .word "LIKE" :: ts => (literal? ts).map (.compare column .like)
  | .name column :: .word "NOT" :: .word "LIKE" :: ts =>
    (literal? ts).map (.compare column .notLike)
  | .name column :: .symbol s :: ts => do
    return .compare column (← Operator.ofSql? s) (← literal? ts)
  | _ => none

/-- `AND` binds more tightly than `OR`. -/
def filter? (ts : List Token) : Option Filter :=
  (ts.splitOn (.word "OR")).mapM fun group => (group.splitOn (.word "AND")).mapM condition?

def optionalFilter? : List Token → Option Filter
  | [] => some []
  | .word "WHERE" :: ts => filter? ts
  | _ => none

def assignment? : List Token → Option (String × Literal)
  | .name column :: .symbol "=" :: ts => (literal? ts).map (column, ·)
  | _ => none

def row? (ts : List Token) : Option (List Literal) :=
  match parenthesised? ts with
  | some (inside, []) => (listItems inside).mapM literal?
  | _ => none

def columnOptions? (c : ColumnDefinition) : List Token → Option ColumnDefinition
  | [] => some c
  | .word "PRIMARY" :: .word "KEY" :: ts => columnOptions? { c with keys := c.keys + 1 } ts
  | .word "UNIQUE" :: ts => columnOptions? { c with unique := true } ts
  | .word "NOT" :: .word "NULL" :: ts => columnOptions? { c with notNull := true } ts
  | .word "DEFAULT" :: .word "NULL" :: ts => columnOptions? { c with default := some .null } ts
  | .word "DEFAULT" :: .word "CURRENT_TIMESTAMP" :: ts =>
    columnOptions? { c with default := some .now } ts
  | .word "DEFAULT" :: .word "now" :: .symbol "(" :: .symbol ")" :: ts =>
    columnOptions? { c with default := some .now } ts
  | .word "DEFAULT" :: .number n :: ts => columnOptions? { c with default := some (.integer n) } ts
  | .word "DEFAULT" :: .symbol "-" :: .number n :: ts =>
    columnOptions? { c with default := some (.integer (-n)) } ts
  | .word "DEFAULT" :: .text s :: ts => columnOptions? { c with default := some (.text s) } ts
  | _ => none

def column? : List Token → Option ColumnDefinition
  | .name name :: .word type :: .symbol "(" :: .number length :: .symbol ")" :: ts =>
    columnOptions?
      { name, type := type ++ "(" ++ String.ofList (Numeral.digits length) ++ ")" } ts
  | .name name :: .word type :: ts => columnOptions? { name, type } ts
  | _ => none

def action? : List Token → Option ReferentialAction
  | [.word "CASCADE"] => some .cascade
  | [.word "RESTRICT"] => some .restrict
  | [.word "SET", .word "NULL"] => some .setNull
  | [.word "SET", .word "DEFAULT"] => some .setDefault
  | [.word "NO", .word "ACTION"] => some .noAction
  | _ => none

def actions? (ts : List Token) : Option (Option ReferentialAction × Option ReferentialAction) :=
  match ts.splitOn (.word "ON") with
  | [[]] => some (none, none)
  | [[], .word "DELETE" :: delete] => do return (some (← action? delete), none)
  | [[], .word "UPDATE" :: update] => do return (none, some (← action? update))
  | [[], .word "DELETE" :: delete, .word "UPDATE" :: update] => do
    return (some (← action? delete), some (← action? update))
  | _ => none

def foreignKey? : List Token → Option ForeignKeyDefinition
  | .word "CONSTRAINT" :: .name name :: .word "FOREIGN" :: .word "KEY" :: .symbol "(" ::
      .name column :: .symbol ")" :: .word "REFERENCES" :: .name parentTable :: ts => do
    let (parents, ts) ← parenthesised? ts
    let (onDelete, onUpdate) ← actions? ts
    return {
      name, column, parentTable, parentColumns := ← names? parents, onDelete, onUpdate }
  | _ => none

def isForeignKey : List Token → Bool
  | .word "CONSTRAINT" :: _ => true
  | _ => false

def table? (name : String) (ts : List Token) : Option TableDefinition := do
  let (inside, rest) ← parenthesised? ts
  guard (rest = [])
  let items := listItems inside
  let columns ← (items.filter fun item => !isForeignKey item).mapM column?
  let foreignKeys ← (items.filter isForeignKey).mapM foreignKey?
  return { name, columns, foreignKeys }

def cutAt (w : String) : List Token → List Token × Option (List Token)
  | [] => ([], none)
  | t :: ts => if t = .word w then ([], some ts) else (t :: (cutAt w ts).1, (cutAt w ts).2)

def limit? : Option (List Token) → Option (Option Nat)
  | none => some none
  | some [.number n] => some (some n)
  | some _ => none

def projection? : List Token → Option (List String)
  | [] => none
  | [.symbol "*"] => some []
  | ts => names? ts

def select? (projection : List Token) : Option (List Token) → Option Command
  | some (.name table :: ts) => do
    let columns ← projection? projection
    let (condition, limit) := cutAt "LIMIT" ts
    return .select table columns (← optionalFilter? condition) (← limit? limit)
  | _ => none

def insert? (table : String) (ts : List Token) : Option Command := do
  let (inside, rest) ← parenthesised? ts
  let columns ← names? inside
  match rest with
  | .word "VALUES" :: ts =>
    let (rows, returning) := cutAt "RETURNING" ts
    let returning ← match returning with
      | none => some none
      | some ts => (name? ts).map some
    return .insert table columns (← (splitCommas 0 rows).mapM row?) returning
  | _ => none

def update? (table : String) (ts : List Token) : Option Command := do
  let (assignments, condition) := cutAt "WHERE" ts
  return .update table (← (splitCommas 0 assignments).mapM assignment?)
    (← (condition.elim (some []) filter?))

def create? : List Token → Option Command
  | .word "TABLE" :: .word "IF" :: .word "NOT" :: .word "EXISTS" :: .name table :: ts =>
    (table? table ts).map (.createTable · true)
  | .word "TABLE" :: .name table :: ts => (table? table ts).map (.createTable · false)
  | [.word "UNIQUE", .word "INDEX", .word "IF", .word "NOT", .word "EXISTS", .name index,
      .word "ON", .name table, .symbol "(", .name column, .symbol ")"] =>
    some (.createUniqueIndex index table column)
  | _ => none

def alter? (table : String) : List Token → Option Command
  | [.word "RENAME", .word "TO", .name new] => some (.renameTable table new)
  | .word "ADD" :: .word "COLUMN" :: ts => (column? ts).map (.addColumn table)
  | [.word "DROP", .word "COLUMN", .name column] => some (.dropColumn table column)
  | _ => none

def pragma? : List Token → Option Command
  | [.word "table_info", .symbol "(", .name table, .symbol ")"] => some (.tableColumns table)
  | [.word "foreign_key_list", .symbol "(", .name table, .symbol ")"] =>
    some (.tableConstraints table)
  | _ => none

def command? : List Token → Option Command
  | [.word "BEGIN"] => some .begin
  | [.word "COMMIT"] => some .commit
  | [.word "ROLLBACK"] => some .rollback
  | .word "SELECT" :: ts => select? (cutAt "FROM" ts).1 (cutAt "FROM" ts).2
  | .word "INSERT" :: .word "INTO" :: .name table :: ts => insert? table ts
  | .word "UPDATE" :: .name table :: .word "SET" :: ts => update? table ts
  | .word "DELETE" :: .word "FROM" :: .name table :: ts =>
    (optionalFilter? ts).map (.delete table)
  | .word "CREATE" :: ts => create? ts
  | .word "ALTER" :: .word "TABLE" :: .name table :: ts => alter? table ts
  | [.word "DROP", .word "TABLE", .word "IF", .word "EXISTS", .name table] =>
    some (.dropTable table)
  | .word "PRAGMA" :: ts => pragma? ts
  | _ => none

def withoutEnd (ts : List Token) : List Token :=
  if ts.getLast? = some (.symbol ";") then ts.dropLast else ts

def Command.read? (sql : String) : Option Command := do
  command? (withoutEnd (← Token.readAll? sql.toList))

end RecordMapper.Sql
