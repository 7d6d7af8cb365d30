import RecordMapper.Error

namespace RecordMapper

inductive StoredCell
  | null
  | integer (i : Int64)
  | real (x : Floating)
  | text (s : String)
  | blob (bytes : List UInt8)
  deriving DecidableEq

def StoredCell.decode (index : Nat) : StoredCell → Except Error Value
  | null => .ok .null
  | integer i => .ok (.integer i)
  | real .nan => .ok .null
  | real x => .ok (.real x)
  | text s => .ok (.text s)
  | blob _ => .error (.conversion (.storageClass "BLOB" index))

def decodeStored (cells : List StoredCell) : Except Error Row :=
  cells.zipIdx.mapM fun (cell, index) => cell.decode index

end RecordMapper
