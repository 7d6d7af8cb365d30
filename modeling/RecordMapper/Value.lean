import RecordMapper.Numeral.Floating
import RecordMapper.Text.Escape
import RecordMapper.Time.Timestamp

namespace RecordMapper

inductive Value
  | null
  | boolean (b : Bool)
  | integer (i : Int64)
  -- Reals come from rows only: no column admits them.
  | real (x : Floating)
  | text (s : String)
  | timestamp (t : Timestamp)
  deriving DecidableEq

inductive ValueKind
  | boolean
  | integer
  | real
  | text
  | timestamp
  deriving DecidableEq

abbrev Row := List Value

namespace Value

def kind? : Value → Option ValueKind
  | null => none
  | boolean _ => some .boolean
  | integer _ => some .integer
  | real _ => some .real
  | text _ => some .text
  | timestamp _ => some .timestamp

def isNull (v : Value) : Bool := v.kind?.isNone

def boolean? : Value → Option Bool
  | boolean b => some b
  | _ => none

def integer? : Value → Option Int64
  | integer i => some i
  | _ => none

def text? : Value → Option String
  | text s => some s
  | _ => none

def timestamp? : Value → Option Timestamp
  | timestamp t => some t
  | _ => none

/-- A timestamp given as a value keeps whole microseconds only. -/
def ofTimestamp (t : Timestamp) : Value := timestamp t.toMicros

def same : Value → Value → Bool
  | real x, real y => x.same y
  | v, w => decide (v = w)

def display : Value → String
  | null => "NULL"
  | boolean b => if b then "true" else "false"
  | integer i => String.ofList (Numeral.writeInt i.toInt)
  | real x => String.ofList (Floating.plain.write .double x)
  | text s => s
  | timestamp t => String.ofList t.write

def inMessage : Value → String
  | null => "Null"
  | boolean b => "Boolean(" ++ (if b then "true" else "false") ++ ")"
  | integer i => "Integer(" ++ String.ofList (Numeral.writeInt i.toInt) ++ ")"
  | real x => "Real(" ++ String.ofList (Floating.inMessage.write .double x) ++ ")"
  | text s => "Text(" ++ String.ofList (Text.escape s.toList) ++ ")"
  | timestamp t => "Timestamp(" ++ String.ofList t.inMessage ++ ")"

@[simp] theorem isNull_eq_true {v : Value} : v.isNull = true ↔ v = null := by
  cases v <;> simp [isNull, kind?]

@[simp] theorem isNull_null : null.isNull = true := rfl

end Value

end RecordMapper
