import RecordMapper.Declaration.Expansion
import RecordMapper.Model

namespace RecordMapper

def optionOpening : List Char := ['O', 'p', 't', 'i', 'o', 'n', '<']

def FieldType.ofName? (name : List Char) : Option FieldType :=
  match h : Text.after? optionOpening name with
  | some rest =>
    if rest.getLast? = some '>' then
      have : rest.length - 1 < name.length := by
        have := congrArg List.length (Text.eq_append_of_after h)
        rw [List.length_append] at this
        simp only [optionOpening, List.length_cons, List.length_nil] at this
        omega
      (ofName? rest.dropLast).map optional
    else none
  | none =>
    match String.ofList name with
    | "bool" => some boolean
    | "i32" => some int32
    | "i64" => some int64
    | "String" => some string
    | "NaiveDateTime" => some timestamp
    | _ => none
  termination_by name.length

def DeclaredDefault.default? : DeclaredDefault → Option Default
  | now => some .now
  | boolean b => some (.literal (.boolean b))
  | text s => some (.literal (.text s))
  | integer source => do
    let (negative, n) ← IntegerLiteral.read? source.toList
    let i : Int := if negative then -n else n
    guard (Numeral.fitsSigned 64 i)
    return .literal (.integer (.ofInt i))

namespace DeclaredColumn

def type? (c : DeclaredColumn) (f : FieldType) : Option ColumnType := do
  let sized := c.length.elim f.columnType fun n => f.columnType.withLength n
  let defaulted ← match c.default with
    | none => some sized
    | some x => x.default?.map fun y => sized.withDefault y
  return c.primaryKey.elim defaulted fun counted => .primaryKey defaulted counted

def column? (c : DeclaredColumn) : Option (Column × Binding) := do
  let f ← FieldType.ofName? c.type.toList
  let type ← c.type? f
  return ({ name := c.name, type, unique := c.unique, nullable := f.nullable }, ⟨c.name, f⟩)

end DeclaredColumn

structure DerivedModel where
  bindings : List Binding
  model : Model (Fields bindings)

def Expansion.model? (e : Expansion) : Option DerivedModel := do
  let columns ← e.columns.mapM DeclaredColumn.column?
  let schema : Schema :=
    { table := e.table, columns := columns.map Prod.fst, foreignKeys := e.foreignKeys }
  let bindings := columns.map Prod.snd
  return ⟨bindings, .ofBindings e.name schema bindings⟩

def Declaration.model? (x : Declaration) : Option DerivedModel := do
  (← x.expand.toOption).model?

end RecordMapper
