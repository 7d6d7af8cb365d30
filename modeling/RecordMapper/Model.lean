import RecordMapper.Record

namespace RecordMapper

/-- A table layout with both ways between instances and records. Models of one table may still be
different models: `ident` tells them apart. -/
structure Model (α : Type) where
  ident : String
  schema : Schema
  toRecord : α → Except Error Record
  ofRecord : Record → Except Error α

namespace Model

def ofPairs (m : Model α) (pairs : List (String × Value)) : Except Error α := do
  m.ofRecord (← (Record.empty m.schema).setAll pairs)

def ofRow (m : Model α) (row : Row) : Except Error α := do
  m.ofRecord (← Record.ofRow m.schema row)

def ofSchema (ident : String) (s : Schema) : Model Record where
  ident := ident
  schema := s
  toRecord := .ok
  ofRecord := .ok

end Model

structure Binding where
  column : String
  type : FieldType
  deriving DecidableEq

inductive Fields : List Binding → Type
  | nil : Fields []
  | cons : b.type.Carrier → Fields bs → Fields (b :: bs)

namespace Fields

def toPairs : (bs : List Binding) → Fields bs → List (String × Value)
  | [], nil => []
  | b :: bs, cons a as => (b.column, b.type.toValue a) :: toPairs bs as

def ofRecord (r : Record) : (bs : List Binding) → Except Error (Fields bs)
  | [] => .ok nil
  | b :: bs => do
    let a ← r.field b.type b.column
    let as ← ofRecord r bs
    return cons a as

end Fields

def Model.ofBindings (ident : String) (s : Schema) (bs : List Binding) : Model (Fields bs) where
  ident := ident
  schema := s
  toRecord := fun a => (Record.empty s).setAll (Fields.toPairs bs a)
  ofRecord := fun r => Fields.ofRecord r bs

structure Entity where
  ident : String
  record : Except Error Record

def Model.entity (m : Model α) (a : α) : Entity := ⟨m.ident, m.toRecord a⟩

end RecordMapper
