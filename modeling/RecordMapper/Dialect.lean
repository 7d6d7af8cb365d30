import RecordMapper.Value
import RecordMapper.Text.Quoted

namespace RecordMapper

inductive Dialect
  | postgres
  | sqlite
  deriving DecidableEq

def quoteName (name : String) : String := String.ofList (Text.quoted '"' name.toList)

def quoteText (text : String) : String := String.ofList (Text.quoted '\'' text.toList)

namespace Keyword

def primaryKey : String := "PRIMARY KEY"

def notNull : String := "NOT NULL"

def null : String := "NULL"

def default : String := "DEFAULT"

def ifNotExists : String := "IF NOT EXISTS"

end Keyword

namespace Dialect

def name : Dialect → String
  | postgres => "postgres"
  | sqlite => "sqlite"

def stringColumn : Dialect → Nat → String
  | postgres, length => "VARCHAR(" ++ String.ofList (Numeral.digits length) ++ ")"
  | sqlite, _ => "TEXT"

def integerColumn : Dialect → String
  | postgres => "INT"
  | sqlite => "INTEGER"

def booleanColumn : Dialect → String
  | postgres => "BOOLEAN"
  | sqlite => "INTEGER"

def timestampColumn : Dialect → String
  | postgres => "TIMESTAMP"
  | sqlite => "TIMESTAMP"

def autoincrement? : Dialect → Option String
  | postgres => some "SERIAL"
  | sqlite => none

def autoincrementDefault : Dialect → String
  | postgres => Keyword.default
  | sqlite => Keyword.null

def inlineUnique : Dialect → Bool
  | postgres => true
  | sqlite => false

def now : Dialect → String
  | postgres => "now()"
  | sqlite => "CURRENT_TIMESTAMP"

def boolean : Dialect → Bool → String
  | postgres, b => if b then "'t'" else "'f'"
  | sqlite, b => if b then "1" else "0"

def literal (d : Dialect) : Value → String
  | .boolean b => d.boolean b
  | .text s => quoteText s
  | .timestamp t => quoteText (Value.timestamp t).display
  | v => v.display

end Dialect

theorem toList_quoteName (name : String) :
    (quoteName name).toList = Text.quoted '"' name.toList := String.toList_ofList

theorem toList_quoteText (text : String) :
    (quoteText text).toList = Text.quoted '\'' text.toList := String.toList_ofList

end RecordMapper
