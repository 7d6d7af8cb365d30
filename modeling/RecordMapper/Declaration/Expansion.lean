import RecordMapper.Declaration
import RecordMapper.Declaration.IntegerLiteral
import RecordMapper.Text.Blank
import RecordMapper.Text.Identifier
import RecordMapper.Text.Split
import RecordMapper.Text.Words

/-!
From the declaration of a structure to the model it stands for. The first fault counts: the shape,
then the attributes of the structure, then field by field its attributes from left to right and what
they say together.
-/

namespace RecordMapper

structure ColumnOptions where
  primaryKey : Bool := false
  autoincrement : Bool := false
  unique : Bool := false
  size : Option Nat := none
  default : Option DeclaredDefault := none
  defaultNow : Bool := false
  name : Option String := none
  foreignKey : Option (String × String) := none
  onDelete : Option ReferentialAction := none
  onUpdate : Option ReferentialAction := none
  deriving DecidableEq

namespace AttributeItem

def value (item : AttributeItem) : Except DeclarationError AttributeLiteral :=
  match item.literal with
  | some l => .ok l
  | none => .error .missingValue

def text (item : AttributeItem) : Except DeclarationError String := do
  match ← item.value with
  | .text s => .ok s
  | _ => .error .notText

def flag (item : AttributeItem) (o : ColumnOptions) : Except DeclarationError ColumnOptions :=
  match item.literal with
  | none => .ok o
  | some _ => .error .unexpectedValue

def size (item : AttributeItem) : Except DeclarationError Nat := do
  match ← item.value with
  | .number source =>
    match IntegerLiteral.read? source.toList with
    | none => .error .notInteger
    | some (true, _) => .error .sizeNegative
    | some (false, n) => if Numeral.fitsUnsigned 64 n then .ok n else .error .sizeTooLarge
  | _ => .error .notInteger

def default (item : AttributeItem) : Except DeclarationError DeclaredDefault := do
  match ← item.value with
  | .boolean b => .ok (.boolean b)
  | .text s => .ok (.text s)
  | .number source =>
    if (IntegerLiteral.read? source.toList).isSome then .ok (.integer source)
    else .error .badDefault
  | _ => .error .badDefault

def foreignKey (item : AttributeItem) : Except DeclarationError (String × String) := do
  let target ← item.text
  match Text.splitFirst? [':', ':'] target.toList with
  | none => .error .badForeignKey
  | some (table, column) =>
    if table = [] ∨ column = [] ∨ (Text.splitFirst? [':', ':'] column).isSome then
      .error .badForeignKey
    else .ok (String.ofList table, String.ofList column)

def action (item : AttributeItem) : Except DeclarationError ReferentialAction := do
  let text ← item.text
  let plain := (text.toList.flatMap Text.lowerForm).map fun c => if c = '_' then ' ' else c
  match String.ofList plain with
  | "cascade" => .ok .cascade
  | "restrict" => .ok .restrict
  | "set null" => .ok .setNull
  | "set default" => .ok .setDefault
  | "no action" => .ok .noAction
  | _ => .error .badAction

end AttributeItem

namespace ColumnOptions

def apply (o : ColumnOptions) (item : AttributeItem) : Except DeclarationError ColumnOptions :=
  match item.key with
  | "primary_key" => item.flag { o with primaryKey := true }
  | "autoincrement" => item.flag { o with autoincrement := true }
  | "unique" => item.flag { o with unique := true }
  | "default_now" => item.flag { o with defaultNow := true }
  | "size" => do return { o with size := some (← item.size) }
  | "default" => do return { o with default := some (← item.default) }
  | "name" => do return { o with name := some (← item.text) }
  | "foreign_key" => do return { o with foreignKey := some (← item.foreignKey) }
  | "on_delete" => do return { o with onDelete := some (← item.action) }
  | "on_update" => do return { o with onUpdate := some (← item.action) }
  | _ => .error .unknownKey

def check (o : ColumnOptions) : Except DeclarationError Unit :=
  if o.autoincrement && !o.primaryKey then .error .autoincrementAlone
  else if o.default.isSome && o.defaultNow then .error .twoDefaults
  else if (o.onDelete.isSome || o.onUpdate.isSome) && o.foreignKey.isNone then .error .actionAlone
  else .ok ()

end ColumnOptions

/-- All items of all attributes in order; an attribute without parentheses is a fault in its place.
-/
def foldItems (step : β → AttributeItem → Except DeclarationError β) :
    β → List Attribute → Except DeclarationError β
  | b, [] => .ok b
  | _, none :: _ => .error .bareAttribute
  | b, some items :: rest => do foldItems step (← items.foldlM step b) rest

def bareName (name : String) : String :=
  match Text.after? ['r', '#'] name.toList with
  | some rest => String.ofList rest
  | none => name

def withoutBlanks (text : String) : String :=
  String.ofList (text.toList.filter fun c => !Text.isBlank c)

def identifier (name : List Char) : Except DeclarationError String :=
  if Text.isIdentifier name then .ok (String.ofList name)
  else .error (.badName (String.ofList name))

namespace FieldDeclaration

def options (f : FieldDeclaration) : Except DeclarationError ColumnOptions := do
  let o ← foldItems ColumnOptions.apply {} f.attributes
  o.check
  return o

def columnName (f : FieldDeclaration) (o : ColumnOptions) : String := o.name.getD (bareName f.name)

def column (f : FieldDeclaration) (o : ColumnOptions) : DeclaredColumn where
  name := f.columnName o
  type := withoutBlanks f.type
  length := o.size
  default := o.default.or (if o.defaultNow then some .now else none)
  primaryKey := if o.primaryKey then some o.autoincrement else none
  unique := o.unique

def foreignKey? (table : String) (f : FieldDeclaration) (o : ColumnOptions) : Option ForeignKey :=
  o.foreignKey.map fun target =>
    { name := "fk_" ++ table ++ "_" ++ f.columnName o
      keyColumn := f.columnName o
      parentTable := target.1
      parentKeyColumns := target.2
      onDelete := o.onDelete
      onUpdate := o.onUpdate }

end FieldDeclaration

namespace Declaration

def tableItem (_ : Option String) (item : AttributeItem) :
    Except DeclarationError (Option String) :=
  if item.key = "table" then do return some (← item.text) else .error .notTable

def table (x : Declaration) : Except DeclarationError String := do
  let named ← foldItems tableItem none x.attributes
  return named.getD (String.ofList (Text.snakeCase (bareName x.name).toList))

def checkShape (x : Declaration) : Except DeclarationError Unit :=
  match x.shape with
  | .struct => .ok ()
  | .tuple | .unit => .error .notNamed
  | .enum | .union => .error .notStruct

def expandField (e : Expansion) (f : FieldDeclaration) : Except DeclarationError Expansion := do
  let o ← f.options
  let column := f.columnName o
  let constant ← identifier (Text.shoutCase column.toList)
  return { e with
    columns := e.columns ++ [f.column o]
    foreignKeys := e.foreignKeys ++ (f.foreignKey? e.table o).toList
    fields := e.fields ++ [(f.name, column)]
    constants := e.constants ++ [(constant, column)] }

def expand (x : Declaration) : Except DeclarationError Expansion := do
  x.checkShape
  let table ← x.table
  let start : Expansion :=
    { name := x.name, table, columns := [], foreignKeys := [], fields := []
      visibility := withoutBlanks x.visibility, moduleName := "", constants := [] }
  let e ← x.fields.foldlM expandField start
  let moduleName ← identifier (Text.snakeCase (bareName x.name).toList ++ "_fields".toList)
  return { e with moduleName }

end Declaration

end RecordMapper
