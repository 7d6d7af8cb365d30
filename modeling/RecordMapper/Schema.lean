import RecordMapper.Column

namespace RecordMapper

structure Schema where
  table : String
  columns : List Column := []
  foreignKeys : List ForeignKey := []
  deriving DecidableEq

namespace Schema

def column? (s : Schema) (name : String) : Option Column :=
  s.columns.find? fun c => c.name == name

def index? (s : Schema) (name : String) : Option Nat :=
  s.columns.findIdx? fun c => c.name == name

def primaryKey? (s : Schema) : Option Column := s.columns.find? Column.isPrimaryKey

def columnNames (s : Schema) : List String := s.columns.map Column.name

end Schema

end RecordMapper
