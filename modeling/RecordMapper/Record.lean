import RecordMapper.Schema

namespace RecordMapper

structure Record where
  schema : Schema
  values : List Value
  length_values : values.length = schema.columns.length

namespace Record

def empty (s : Schema) : Record where
  schema := s
  values := List.replicate s.columns.length .null
  length_values := List.length_replicate

def check (table : String) (c : Column) (v : Value) : Except Error Unit :=
  if v.isNull then
    if c.nullable then .ok () else .error (.validation (.notNullable table c.name))
  else if c.type.validate v then .ok ()
  else .error (.validation (.badValue v table c.name))

def set (r : Record) (name : String) (v : Value) : Except Error Record :=
  match r.schema.column? name, r.schema.index? name with
  | some c, some i => do
    check r.schema.table c v
    return { r with
      values := r.values.set i v
      length_values := by rw [List.length_set, r.length_values] }
  | _, _ => .error (.validation (.noColumn r.schema.table name))

def setAll (r : Record) : List (String × Value) → Except Error Record
  | [] => .ok r
  | (name, v) :: pairs => do (← r.set name v).setAll pairs

def get? (r : Record) (name : String) : Option Value :=
  (r.schema.index? name).bind fun i => r.values[i]?

def setRow (r : Record) : List Column → Row → Except Error Record
  | c :: columns, v :: row => do
    let v ← c.type.coerce v
    (← r.set c.name v).setRow columns row
  | _, _ => .ok r

def ofRow (s : Schema) (row : Row) : Except Error Record :=
  if row.length = s.columns.length then (empty s).setRow s.columns row
  else .error (.conversion (.rowWidth s.table row.length s.columns.length))

def inField (table column : String) : Error → Error
  | .validation cause => .validation (.inField table column cause)
  | e => e

def field (r : Record) (f : FieldType) (name : String) : Except Error f.Carrier :=
  match r.get? name with
  | none => .error (.validation (.noColumn r.schema.table name))
  | some v => (f.ofValue v).mapError (inField r.schema.table name)

def toPairs (r : Record) : List (String × Value) := r.schema.columnNames.zip r.values

end Record

end RecordMapper
