import RecordMapper.Error

namespace RecordMapper

inductive FieldType
  | boolean
  | int32
  | int64
  | string
  | timestamp
  -- An optional field is the only one that holds NULL.
  | optional (inner : FieldType)
  deriving DecidableEq

namespace FieldType

@[reducible] def Carrier : FieldType → Type
  | boolean => Bool
  | int32 => Int32
  | int64 => Int64
  | string => String
  | timestamp => Timestamp
  | optional inner => Option inner.Carrier

def nullable : FieldType → Bool
  | optional _ => true
  | _ => false

def toValue : (f : FieldType) → f.Carrier → Value
  | boolean, b => .boolean b
  | int32, i => .integer i.toInt64
  | int64, i => .integer i
  | string, s => .text s
  | timestamp, t => .ofTimestamp t
  | optional _, none => .null
  | optional inner, some a => inner.toValue a

def fitsInt32 (i : Int64) : Bool := Int32.minValue.toInt64 ≤ i && i ≤ Int32.maxValue.toInt64

def ofValue : (f : FieldType) → Value → Except Error f.Carrier
  | boolean, .boolean b => .ok b
  | boolean, v => .error (.validation (.mismatch .boolean v))
  | int32, .integer i =>
    if fitsInt32 i then .ok i.toInt32 else .error (.validation (.outOfRange i))
  | int32, v => .error (.validation (.mismatch .integer v))
  | int64, .integer i => .ok i
  | int64, v => .error (.validation (.mismatch .integer v))
  | string, .text s => .ok s
  | string, v => .error (.validation (.mismatch .text v))
  | timestamp, .timestamp t => .ok t
  | timestamp, v => .error (.validation (.mismatch .timestamp v))
  | optional _, .null => .ok none
  | optional inner, v => (inner.ofValue v).map some

end FieldType

end RecordMapper
