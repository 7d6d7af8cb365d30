import RecordMapper.Model
import RecordMapper.Session

namespace RecordMapper

structure InsertItem where
  ident : String
  record : Record

structure Insert where
  dialect : Dialect
  items : List InsertItem := []
  error : Option Error := none

namespace Insert

def add (b : Insert) (e : Entity) : Insert :=
  match e.record with
  | .ok record => { b with items := b.items ++ [⟨e.ident, record⟩] }
  | .error err => { b with error := b.error.or (some err) }

def addAll (b : Insert) (es : List Entity) : Insert := es.foldl add b

def size (b : Insert) : Nat := b.items.length

def rowSql (d : Dialect) (s : Schema) (r : Record) : Except Error (List String) :=
  (s.columns.zip r.values).mapM fun p => p.1.type.literal d p.2

/-- None for an empty batch. -/
def toSql (b : Insert) : Except Error (Option String) :=
  match b.items with
  | [] => .ok none
  | first :: _ =>
    let s := first.record.schema
    match b.items.find? fun item => item.ident ≠ first.ident with
    | some other => .error (.differentModels (.found s.table other.record.schema.table))
    | none => do
      let rows ← b.items.mapM fun item => rowSql b.dialect s item.record
      return some (Statement.insert s.table s.columnNames rows (s.primaryKey?.map Column.name))

def hasKey (b : Insert) : Bool :=
  match b.items with
  | [] => false
  | first :: _ => first.record.schema.primaryKey?.isSome

def commit (c : Connection σ) (b : Insert) : SessionM σ (Option (List Value)) := do
  if let some e := b.error then throw e
  match ← Session.liftExcept b.toSql with
  | none => return none
  | some sql =>
    let ids ← if b.hasKey then do
        let rows ← Session.fetchAll c sql
        pure (rows.map fun row => row.head?.getD .null)
      else do
        discard <| Session.execute c sql
        pure []
    Session.commit c
    return some ids

end Insert

end RecordMapper
