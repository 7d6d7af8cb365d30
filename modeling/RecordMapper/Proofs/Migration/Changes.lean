import RecordMapper.Proofs.Migration.Steps

namespace RecordMapper

open Sql

inductive TableChange
  | create (table : String) (definitions : List String) (foreignKeys : List ForeignKey)
  | addColumn (table definition : String)
  | index (table column : String)

namespace TableChange

def sql : TableChange → String
  | create table definitions foreignKeys =>
    Statement.createTable table definitions true (foreignKeys.map ForeignKey.sql)
  | addColumn table definition => Statement.addColumn table definition
  | index table column => Statement.createUniqueIndex table column

def definitions : TableChange → List String
  | create _ definitions _ => definitions
  | addColumn _ definition => [definition]
  | index .. => []

def indexed : TableChange → List (String × String)
  | index table column => [(table, column)]
  | _ => []

end TableChange

def Sql.Command.defined : Command → List ColumnDefinition
  | createTable table _ => table.columns
  | addColumn _ column => [column]
  | _ => []

def Sql.Command.indexed : Command → List (String × String × String)
  | createUniqueIndex name table column => [(name, table, column)]
  | _ => []

namespace TableChange

def indexNamed (p : String × String) : String × String × String :=
  (p.1 ++ "_" ++ p.2 ++ "_idx", p.1, p.2)

theorem exists_read (change : TableChange) {cs : List ColumnDefinition}
    (h : List.Forall₂ Describes change.definitions cs) :
    ∃ command, Command.read? change.sql = some command ∧ command.defined = cs ∧
      command.indexed = change.indexed.map indexNamed := by
  cases change with
  | create table definitions foreignKeys =>
    exact ⟨_, read_createTable table h foreignKeys, rfl, rfl⟩
  | addColumn table definition =>
    cases h with
    | cons hc hnil =>
      cases hnil
      exact ⟨_, hc.read_addColumn table, rfl, rfl⟩
  | index table column =>
    cases h
    exact ⟨_, read_createUniqueIndex table column, rfl, rfl⟩

theorem exists_reads {changes : List TableChange} {cs : List ColumnDefinition}
    (h : List.Forall₂ Describes (changes.flatMap definitions) cs) :
    ∃ commands,
      List.Forall₂ (fun sql command => Command.read? sql = some command) (changes.map sql)
        commands ∧
      commands.flatMap Command.defined = cs ∧
      commands.flatMap Command.indexed = (changes.flatMap indexed).map indexNamed := by
  induction changes generalizing cs with
  | nil =>
    cases h
    exact ⟨[], .nil, rfl, rfl⟩
  | cons change changes ih =>
    obtain ⟨command, hread, hdefined, hindexed⟩ :=
      change.exists_read (List.forall₂_take_append _ _ _ h.flip).flip
    obtain ⟨commands, hreads, hcs, hindexes⟩ := ih (List.forall₂_drop_append _ _ _ h.flip).flip
    refine ⟨command :: commands, .cons hread hreads, ?_, ?_⟩
    · rw [List.flatMap_cons, hdefined, hcs, List.take_append_drop]
    · rw [List.flatMap_cons, hindexed, hindexes, List.flatMap_cons, List.map_append]

end TableChange

namespace Migration

/-- What changes come to: definitions of columns in order, and columns with indexes. -/
structure Amounts (changes : List TableChange) (texts : List String)
    (columns : List (String × String)) : Prop where
  definitions : changes.flatMap TableChange.definitions = texts
  indexed : changes.flatMap TableChange.indexed = columns

namespace Amounts

variable {changes more : List TableChange} {texts texts' : List String}
  {columns columns' : List (String × String)}

theorem nil : Amounts [] [] [] := ⟨rfl, rfl⟩

theorem append (h : Amounts changes texts columns) (hmore : Amounts more texts' columns') :
    Amounts (changes ++ more) (texts ++ texts') (columns ++ columns') where
  definitions := by rw [List.flatMap_append, h.definitions, hmore.definitions]
  indexed := by rw [List.flatMap_append, h.indexed, hmore.indexed]

theorem indexes (columns : List (String × String)) :
    Amounts (columns.map fun p => .index p.1 p.2) [] columns := by
  induction columns with
  | nil => exact nil
  | cons p columns ih =>
    have hindex : Amounts [.index p.1 p.2] [] [p] := ⟨rfl, rfl⟩
    exact hindex.append ih

end Amounts

def marked (d : Dialect) (table : String) (columns : List Column) : List (String × String) :=
  (columns.filter fun col => col.unique && !d.inlineUnique).map fun col => (table, col.name)

theorem marked_append (d : Dialect) (table : String) (columns more : List Column) :
    marked d table (columns ++ more) = marked d table columns ++ marked d table more := by
  rw [marked, List.filter_append, List.map_append]
  rfl

theorem indexes_eq (d : Dialect) (table : String) (columns : List Column) :
    Step.indexes d table columns =
      ((marked d table columns).map fun p => .index p.1 p.2).map TableChange.sql := by
  simp [Step.indexes, marked, Function.comp_def, TableChange.sql]

namespace Step

inductive Defines (d : Dialect) : Step → List String → Prop
  | createTable {s : Schema} {texts : List String} :
      List.Forall₂ (fun col text => Column.sql d col = .ok text) s.columns texts →
      Defines d (.createTable s) texts
  | addColumn {table : String} {col : Column} {text : String} :
      Column.sql d col = .ok text → Defines d (.addColumn table col) [text]

def Grows : Step → Prop
  | createTable _ => True
  | addColumn .. => True
  | _ => False

def marks (d : Dialect) : Step → List (String × String)
  | createTable s => marked d s.table (s.columns.filter fun col => !col.isPrimaryKey)
  | addColumn table col => marked d table [col]
  | _ => []

variable {d : Dialect}

theorem Defines.changes {step : Step} {texts : List String} (h : step.Defines d texts) :
    ∃ changes, step.statements d = .ok (changes.map TableChange.sql) ∧
      Amounts changes texts (step.marks d) := by
  cases h with
  | @createTable s _ hcolumns =>
    let creation := TableChange.create s.table texts s.foreignKeys
    have hcreation : Amounts [creation] texts [] := ⟨List.append_nil texts, rfl⟩
    have hchanges := hcreation.append (Amounts.indexes ((Step.createTable s).marks d))
    rw [List.append_nil, List.nil_append] at hchanges
    refine ⟨_, ?_, hchanges⟩
    rw [statements, Migration.createTableSql, mapM_of_forall₂ hcolumns, indexes_eq]
    rfl
  | @addColumn table col text hcol =>
    have haddition : Amounts [.addColumn table text] [text] [] := ⟨rfl, rfl⟩
    have hchanges := haddition.append (Amounts.indexes ((Step.addColumn table col).marks d))
    rw [List.append_nil, List.nil_append] at hchanges
    refine ⟨_, ?_, hchanges⟩
    rw [statements, hcol, indexes_eq]
    rfl

theorem Grows.exists_defines {step : Step} (h : step.Grows) {sqls : List String}
    (hsqls : step.statements d = .ok sqls) : ∃ texts, step.Defines d texts := by
  cases step with
  | createTable s =>
    obtain ⟨_, hsql, _⟩ := except_bind_eq_ok hsqls
    obtain ⟨texts, htexts, _⟩ := except_bind_eq_ok hsql
    exact ⟨texts, .createTable (forall₂_of_mapM htexts)⟩
  | addColumn table col =>
    obtain ⟨text, htext, _⟩ := except_bind_eq_ok hsqls
    exact ⟨[text], .addColumn htext⟩
  | _ => exact h.elim

theorem exists_defines {steps : List Step} (hgrow : ∀ step ∈ steps, step.Grows)
    (hplan : (plan d steps).2 = .ok ()) : ∃ texts, List.Forall₂ (Defines d) steps texts := by
  induction steps with
  | nil => exact ⟨[], .nil⟩
  | cons step steps ih =>
    obtain ⟨hstep, hrest⟩ := List.forall_mem_cons.1 hgrow
    rw [plan] at hplan
    cases hsqls : step.statements d with
    | error e =>
      rw [hsqls] at hplan
      cases hplan
    | ok sqls =>
      rw [hsqls] at hplan
      obtain ⟨texts, htexts⟩ := hstep.exists_defines hsqls
      obtain ⟨more, hmore⟩ := ih hrest hplan
      exact ⟨texts :: more, .cons htexts hmore⟩

theorem Defines.exists_describes {step : Step} {texts : List String} (h : step.Defines d texts) :
    ∃ cs, List.Forall₂ Describes texts cs := by
  cases h with
  | createTable hcolumns =>
    obtain ⟨cs, -, hcs⟩ := exists_columns hcolumns
    exact ⟨cs, hcs⟩
  | addColumn hcol =>
    obtain ⟨c, -, hc⟩ := Column.exists_says hcol
    exact ⟨[c], .cons hc .nil⟩

theorem exists_describes {steps : List Step} {texts : List (List String)}
    (h : List.Forall₂ (Defines d) steps texts) : ∃ cs, List.Forall₂ Describes texts.flatten cs := by
  induction h with
  | nil => exact ⟨[], .nil⟩
  | cons hstep _ ih =>
    obtain ⟨cs, hcs⟩ := hstep.exists_describes
    obtain ⟨more, hmore⟩ := ih
    exact ⟨cs ++ more, List.rel_append hcs hmore⟩

theorem exists_changes {steps : List Step} {texts : List (List String)}
    (h : List.Forall₂ (Defines d) steps texts) :
    ∃ changes, plan d steps = (changes.map TableChange.sql, .ok ()) ∧
      Amounts changes texts.flatten (steps.flatMap (marks d)) := by
  induction h with
  | nil => exact ⟨[], rfl, .nil⟩
  | cons hstep _ ih =>
    obtain ⟨changes, hchanges, hamounts⟩ := hstep.changes
    obtain ⟨more, hmore, hrest⟩ := ih
    refine ⟨changes ++ more, ?_, hamounts.append hrest⟩
    rw [plan, hchanges, hmore, List.map_append]

end Step

end Migration

end RecordMapper
