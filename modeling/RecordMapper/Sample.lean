import RecordMapper.Declaration.Derived

namespace RecordMapper.Sample

def flag (key : String) : AttributeItem := { key }

def setting (key : String) (l : AttributeLiteral) : AttributeItem := { key, literal := l }

def field (name type : String) (items : List AttributeItem := []) : FieldDeclaration :=
  { name, type, attributes := if items = [] then [] else [some items] }

def named (table : String) : List Attribute := [some [setting "table" (.text table)]]

def user : Declaration where
  name := "User"
  attributes := named "user"
  fields := [
    field "id" "Option<i64>" [flag "primary_key", flag "autoincrement"],
    field "email" "String" [setting "size" (.number "120"), flag "unique"],
    field "age" "Option<i64>" [setting "default" (.number "18")],
    field "is_admin" "Option<bool>" [setting "default" (.boolean true)],
    field "create_at" "Option<NaiveDateTime>" [flag "default_now"]]

def project : Declaration where
  name := "Project"
  fields := [
    field "id" "Option<i64>" [flag "primary_key", flag "autoincrement"],
    field "user_id" "i64" [
      setting "foreign_key" (.text "user::id"),
      setting "on_delete" (.text "cascade"),
      setting "on_update" (.text "cascade")],
    field "title" "String" [setting "size" (.number "80")]]

def auditEntry : Declaration where
  name := "AuditEntry"
  fields := [field "message" "String", field "level" "i32"]

def note : Declaration where
  name := "Note"
  fields := [
    field "code" "String" [flag "primary_key"],
    field "body" "Option<String>" [
      setting "name" (.text "body_text"),
      setting "default" (.text "")]]

def strict : Declaration where
  name := "Strict"
  fields := [
    field "flag" "bool",
    field "small" "i32",
    field "big" "i64",
    field "text" "String",
    field "at" "NaiveDateTime"]

def loose : Declaration where
  name := "Loose"
  fields := [
    field "flag" "Option<bool>",
    field "small" "Option<i32>",
    field "big" "Option<i64>",
    field "text" "Option<String>",
    field "at" "Option<NaiveDateTime>"]

def awkward : Declaration where
  name := "Awkward"
  attributes := named "we\"ird t"
  fields := [
    field "id" "String" [flag "primary_key", flag "autoincrement", flag "unique"],
    field "r#type" "Option<String>" [
      setting "name" (.text "the \"type\""),
      flag "unique",
      setting "size" (.number "10"),
      setting "default" (.text "it's")],
    field "on" "bool" [setting "default" (.boolean false), flag "unique"],
    field "parent" "Option<String>" [
      setting "foreign_key" (.text "we\"ird t::id"),
      setting "on_delete" (.text "SET_NULL")]]

end RecordMapper.Sample
