import RecordMapper.Connection
import RecordMapper.Text.Split
import RecordMapper.Time.Reading

/-!
A database server that answers every statement but those on transactions with the same rows of text,
and the connection to it. The type of a column tells how its texts are read.
-/

namespace RecordMapper

namespace Served

def unreadable (type text : String) : Error :=
  .database ("cannot decode " ++ type ++ " from " ++ text)

def readBoolean? : List Char → Option Bool
  | ['t'] => some true
  | ['f'] => some false
  | _ => none

/-- A text as the value it stands for; texts of other types stay as they are. -/
def decode (type text : String) : Except Error Value :=
  let cs := text.toList
  let read (v : Option Value) : Except Error Value :=
    match v with
    | some v => .ok v
    | none => .error (unreadable type text)
  let integer (bits : Nat) := (Numeral.readSigned? bits cs).map fun i => Value.integer (.ofInt i)
  match type with
  | "BOOL" => read ((readBoolean? cs).map .boolean)
  | "INT2" => read (integer 16)
  | "INT4" => read (integer 32)
  | "INT8" => read (integer 64)
  | "FLOAT4" => read ((Floating.read? .single cs).map fun x => .real (x.widen .double))
  | "FLOAT8" => read ((Floating.read? .double cs).map .real)
  | "TIMESTAMP" => read ((Timestamp.readServer? cs).map .timestamp)
  | "TIMESTAMPTZ" => read ((Timestamp.readZoned? cs).map .timestamp)
  | _ => .ok (.text text)

def decodeCell (type : String) : Option String → Except Error Value
  | none => .ok .null
  | some text => decode type text

def shortRow : Error := .database "row has too few values"

def decodeRow : (types : List String) → List (Option String) → Except Error Row
  | [], _ => .ok []
  | _ :: _, [] => .error shortRow
  | type :: types, cell :: cells => do
    let v ← decodeCell type cell
    return v :: (← decodeRow types cells)

def leadingCount : List Char → Nat
  | '+' :: cs => Numeral.value (cs.takeWhile Char.isDigit)
  | cs => Numeral.value (cs.takeWhile Char.isDigit)

/-- The count at the end of a command tag, after its last space. Without a count, or with one that
64 bits do not hold, nothing was written. -/
def affected (tag : List Char) : Nat :=
  match Text.splitLast? ' ' tag with
  | none => 0
  | some (_, last) =>
    let n := leadingCount last
    if Numeral.fitsUnsigned 64 n then n else 0

end Served

structure Server where
  types : List String
  rows : List (List (Option String))
  tag : String
  fails : Bool := false
  user : String
  database : String
  password : String
  asked : List String := []

namespace Server

def received (s : Server) : List String :=
  ["user=" ++ s.user, "database=" ++ s.database, "password=" ++ s.password] ++ s.asked

def ask (sql : String) (ofTransaction : α) (read : Server → Except Error α) (s : Server) :
    Except Error α × Server :=
  let answer :=
    if isTransactional sql then .ok ofTransaction
    else if s.fails then .error (.database "statement refused")
    else read s
  (answer, { s with asked := s.asked ++ [sql] })

def connection : Connection Server where
  execute sql := ask sql 0 fun s => .ok (Served.affected s.tag.toList)
  fetchOptional sql := ask sql none fun s => s.rows.head?.mapM (Served.decodeRow s.types)
  fetchAll sql := ask sql [] fun s => s.rows.mapM (Served.decodeRow s.types)
  announce sql := [⟨.debug, sql⟩]

end Server

end RecordMapper
