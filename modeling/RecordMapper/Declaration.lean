import RecordMapper.Column

namespace RecordMapper

inductive Shape
  | struct
  | tuple
  | unit
  | enum
  | union
  deriving DecidableEq

inductive AttributeLiteral
  | text (s : String)
  | number (source : String)
  | boolean (b : Bool)
  | char (c : String)
  deriving DecidableEq

structure AttributeItem where
  key : String
  literal : Option AttributeLiteral := none
  deriving DecidableEq

abbrev Attribute := Option (List AttributeItem)

structure FieldDeclaration where
  name : String
  type : String
  attributes : List Attribute := []
  deriving DecidableEq

structure Declaration where
  name : String
  visibility : String := ""
  shape : Shape := .struct
  attributes : List Attribute := []
  fields : List FieldDeclaration
  deriving DecidableEq

inductive DeclarationError
  | notStruct
  | notNamed
  | bareAttribute
  | notTable
  | unknownKey
  | missingValue
  | unexpectedValue
  | notText
  | notInteger
  | sizeTooLarge
  | sizeNegative
  | badDefault
  | badForeignKey
  | badAction
  | autoincrementAlone
  | twoDefaults
  | actionAlone
  -- The name of a constant or a module would be no identifier.
  | badName (name : String)
  deriving DecidableEq

def DeclarationError.message : DeclarationError → String
  | notStruct => "Model must be a struct"
  | notNamed => "Model must have named fields"
  | bareAttribute => "expected attribute arguments in parentheses: #[orm(...)]"
  | notTable => "unsupported orm attribute, expected table = \"...\""
  | unknownKey => "unsupported orm attribute"
  | missingValue => "expected `=`"
  | unexpectedValue => "expected `,`"
  | notText => "expected string literal"
  | notInteger => "expected integer literal"
  | sizeTooLarge => "number too large to fit in target type"
  | sizeNegative => "invalid digit found in string"
  | badDefault => "default must be a bool, integer or string"
  | badForeignKey => "invalid format for foreign_key, use \"table::column\""
  | badAction =>
    "unknown referential action, expected cascade, restrict, set null, set default or no action"
  | autoincrementAlone => "autoincrement requires primary_key"
  | twoDefaults => "default and default_now are mutually exclusive"
  | actionAlone => "on_delete/on_update require foreign_key"
  | badName name => "not an identifier: " ++ name

inductive DeclaredDefault
  | now
  | boolean (b : Bool)
  | integer (source : String)
  | text (s : String)
  deriving DecidableEq

structure DeclaredColumn where
  name : String
  type : String
  length : Option Nat := none
  default : Option DeclaredDefault := none
  -- For a key, whether the database counts it up.
  primaryKey : Option Bool := none
  unique : Bool := false
  deriving DecidableEq

structure Expansion where
  name : String
  table : String
  columns : List DeclaredColumn
  foreignKeys : List ForeignKey
  fields : List (String × String)
  visibility : String
  moduleName : String
  constants : List (String × String)
  deriving DecidableEq

end RecordMapper
