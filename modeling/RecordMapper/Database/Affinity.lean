import RecordMapper.Condition.Operator
import RecordMapper.Database.Like
import RecordMapper.Value

namespace RecordMapper.Database

inductive Affinity
  | text
  | numeric
  deriving DecidableEq

def Affinity.ofType (type : String) : Affinity := if type = "TEXT" then text else numeric

def isSpace (c : Char) : Bool := c == ' ' || ('\t' ≤ c && c ≤ '\r')

def readReal? : List Char → Option Floating
  | '-' :: cs => Floating.readUnsigned? .double true cs
  | '+' :: cs => Floating.readUnsigned? .double false cs
  | cs => Floating.readUnsigned? .double false cs

def scaled : Floating → Int × Int
  | .nan => (0, 0)
  | .infinite negative => (if negative then -1 else 1, 2000)
  | .finite negative m e => (if negative then -(m : Int) else m, e)

/-- A real as a stored value: whole numbers strictly between the extreme ones lose their point. -/
def ofReal (x : Floating) : Value :=
  let (m, e) := scaled x
  let unit : Int := (Nat.pow 2 (-e).toNat : Nat)
  let i := m * (Nat.pow 2 e.toNat : Nat) / unit
  if i * unit = m * (Nat.pow 2 e.toNat : Nat) ∧ -9223372036854775808 < i ∧ i < 9223372036854775807
  then .integer (Int64.ofInt i)
  else .real x

def number? (s : String) : Option Value :=
  let cs := ((s.toList.dropWhile isSpace).reverse.dropWhile isSpace).reverse
  match Numeral.readInt64? cs with
  | some i => some (.integer i)
  | none => (readReal? cs).map ofReal

def Affinity.store : Affinity → Value → Value
  | .text, .integer i => .text (Value.integer i).display
  | .numeric, .text s => (number? s).getD (.text s)
  | _, v => v

def place? : Value → Option (Int × Int)
  | .integer i => some (i.toInt, 0)
  | .real x => some (scaled x)
  | _ => none

def comparePlaces (x y : Int × Int) : Ordering :=
  let e := min x.2 y.2
  compareOfLessAndEq (x.1 * (Nat.pow 2 (x.2 - e).toNat : Nat))
    (y.1 * (Nat.pow 2 (y.2 - e).toNat : Nat))

def compareValues (v w : Value) : Ordering :=
  match v, w with
  | .null, .null => .eq
  | .null, _ => .lt
  | _, .null => .gt
  | v, w => match place? v, place? w with
    | some x, some y => comparePlaces x y
    | some _, none => .lt
    | none, some _ => .gt
    | none, none => compareOfLessAndEq v.display w.display

def compares? (op : Operator) (v w : Value) : Option Bool :=
  if v.isNull || w.isNull then none
  else
    let order := compareValues v w
    let isLike := like w.display.toList v.display.toList
    some <| match op with
      | .eq => order.isEq
      | .ne => order.isNe
      | .lt => order.isLT
      | .le => order.isLE
      | .gt => order.isGT
      | .ge => order.isGE
      | .like => isLike
      | .notLike => !isLike

end RecordMapper.Database
