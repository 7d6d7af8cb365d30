import RecordMapper.Proofs.Except
import RecordMapper.Proofs.Session.Requests
import RecordMapper.Proofs.Sql.Commands

namespace RecordMapper

open Sql

def Sql.Command.isBoundary : Command → Bool
  | begin => true
  | commit => true
  | rollback => true
  | _ => false

def Ordinary (sql : String) : Prop := ∀ command ∈ Command.read? sql, command.isBoundary = false

instance (sql : String) : Decidable (Ordinary sql) :=
  inferInstanceAs (Decidable (∀ command ∈ Command.read? sql, command.isBoundary = false))

theorem Ordinary.not_mem {sql : String} (h : Ordinary sql) :
    sql ∉ ["BEGIN", "COMMIT", "ROLLBACK"] := by
  simp only [List.mem_cons, List.not_mem_nil, or_false]
  rintro (rfl | rfl | rfl)
  · exact absurd h (by decide +kernel)
  · exact absurd h (by decide +kernel)
  · exact absurd h (by decide +kernel)

def Sql.Command.isQuery : Command → Bool
  | select .. => true
  | tableColumns _ => true
  | tableConstraints _ => true
  | _ => false

theorem isBoundary_of_isQuery {command : Command} (h : command.isQuery = true) :
    command.isBoundary = false := by
  cases command <;> first | rfl | contradiction

theorem isQuery_of_select {ts : List Token} {rest : Option (List Token)} {command : Command}
    (h : select? ts rest = some command) : command.isQuery = true := by
  unfold select? at h
  split at h
  · simp only [Option.bind_eq_bind, Option.bind_eq_some_iff, Option.pure_def,
      Option.some.injEq] at h
    obtain ⟨_, _, _, _, _, _, rfl⟩ := h
    rfl
  · contradiction

theorem isQuery_of_pragma {ts : List Token} {command : Command}
    (h : pragma? ts = some command) : command.isQuery = true := by
  unfold pragma? at h
  split at h
  · cases h
    rfl
  · cases h
    rfl
  · contradiction

theorem isBoundary_of_insert {table : String} {ts : List Token} {command : Command}
    (h : insert? table ts = some command) : command.isBoundary = false := by
  unfold insert? at h
  simp only [Option.bind_eq_bind, Option.bind_eq_some_iff] at h
  obtain ⟨_, _, _, _, h⟩ := h
  split at h
  · split at h
    · simp only [Option.bind_some, Option.bind_eq_some_iff, Option.pure_def,
        Option.some.injEq] at h
      obtain ⟨_, _, rfl⟩ := h
      rfl
    · simp only [Option.bind_eq_some_iff, Option.pure_def, Option.some.injEq] at h
      obtain ⟨_, _, _, _, rfl⟩ := h
      rfl
  · contradiction

theorem isBoundary_of_update {table : String} {ts : List Token} {command : Command}
    (h : update? table ts = some command) : command.isBoundary = false := by
  unfold update? at h
  simp only [Option.bind_eq_bind, Option.bind_eq_some_iff, Option.pure_def,
    Option.some.injEq] at h
  obtain ⟨_, _, _, _, rfl⟩ := h
  rfl

theorem isBoundary_of_create {ts : List Token} {command : Command}
    (h : create? ts = some command) : command.isBoundary = false := by
  unfold create? at h
  split at h
  · obtain ⟨_, _, rfl⟩ := Option.map_eq_some_iff.1 h
    rfl
  · obtain ⟨_, _, rfl⟩ := Option.map_eq_some_iff.1 h
    rfl
  · cases h
    rfl
  · contradiction

theorem isBoundary_of_alter {table : String} {ts : List Token} {command : Command}
    (h : alter? table ts = some command) : command.isBoundary = false := by
  unfold alter? at h
  split at h
  · cases h
    rfl
  · obtain ⟨_, _, rfl⟩ := Option.map_eq_some_iff.1 h
    rfl
  · cases h
    rfl
  · contradiction

theorem isBoundary_of_word {w : String} {ts : List Token} {command : Command}
    (hw : w ∉ ["BEGIN", "COMMIT", "ROLLBACK"]) (h : command? (.word w :: ts) = some command) :
    command.isBoundary = false := by
  unfold command? at h
  split at h
  · simp_all
  · simp_all
  · simp_all
  · exact isBoundary_of_isQuery (isQuery_of_select h)
  · exact isBoundary_of_insert h
  · exact isBoundary_of_update h
  · obtain ⟨_, _, rfl⟩ := Option.map_eq_some_iff.1 h
    rfl
  · exact isBoundary_of_create h
  · exact isBoundary_of_alter h
  · cases h
    rfl
  · exact isBoundary_of_isQuery (isQuery_of_pragma h)
  · contradiction

theorem withoutEnd_append {ts : List Token} (h : .symbol ";" ∉ ts) (us : List Token) :
    ∃ rest, withoutEnd (ts ++ us) = ts ++ rest := by
  unfold withoutEnd
  split
  · rename_i hlast
    cases us with
    | nil => exact absurd (List.mem_of_getLast? (by simpa using hlast)) h
    | cons u us => exact ⟨_, List.dropLast_append_cons ..⟩
  · exact ⟨us, rfl⟩

theorem command_of_spelled {sql : String} {cs : List Char} {ts : List Token}
    (hspells : Spells cs ts) (hts : .symbol ";" ∉ ts) (hsql : cs ++ [' '] <+: sql.toList)
    {command : Command} (h : Command.read? sql = some command) :
    ∃ rest, command? (ts ++ rest) = some command := by
  obtain ⟨rest, hsql⟩ := hsql
  have hread := hspells (' ' :: rest) (apart_cons.2 (by decide))
  rw [Command.read?, ← hsql, List.append_assoc, List.singleton_append, hread] at h
  obtain ⟨tokens, htokens, h⟩ := Option.bind_eq_some_iff.1 h
  obtain ⟨us, _, rfl⟩ := Option.map_eq_some_iff.1 htokens
  obtain ⟨others, hothers⟩ := withoutEnd_append hts us
  rw [hothers] at h
  exact ⟨others, h⟩

theorem command_of_prefix {sql w : String} (hword : isWord w.toList = true)
    (hsql : w.toList ++ [' '] <+: sql.toList) {command : Command}
    (h : Command.read? sql = some command) : ∃ ts, command? (.word w :: ts) = some command :=
  command_of_spelled (spells_word hword) (by simp) hsql h

theorem ordinary_of_prefix {sql : String} (w : String) (hword : isWord w.toList = true)
    (hw : w ∉ ["BEGIN", "COMMIT", "ROLLBACK"]) (hsql : w.toList ++ [' '] <+: sql.toList) :
    Ordinary sql := by
  intro command hcommand
  obtain ⟨ts, hts⟩ := command_of_prefix hword hsql hcommand
  exact isBoundary_of_word hw hts

theorem prefix_append {cs : List Char} {a b : String} (h : cs <+: a.toList) :
    cs <+: (a ++ b).toList := by
  rw [String.toList_append]
  exact h.trans (List.prefix_append _ _)

theorem ordinary_select (table : String) (columns conditions : List String)
    (limit : Option Nat) : Ordinary (Statement.select table columns conditions limit) := by
  refine ordinary_of_prefix "SELECT" (by decide) (by decide) ?_
  unfold Statement.select
  repeat with_reducible apply prefix_append
  decide

theorem ordinary_insert (table : String) (columns : List String) (rows : List (List String))
    (returning : Option String) : Ordinary (Statement.insert table columns rows returning) := by
  refine ordinary_of_prefix "INSERT" (by decide) (by decide) ?_
  unfold Statement.insert
  repeat with_reducible apply prefix_append
  decide

theorem ordinary_update (table : String) (assignments conditions : List String) :
    Ordinary (Statement.update table assignments conditions) := by
  refine ordinary_of_prefix "UPDATE" (by decide) (by decide) ?_
  unfold Statement.update
  repeat with_reducible apply prefix_append
  decide

theorem ordinary_delete (table : String) (conditions : List String) :
    Ordinary (Statement.delete table conditions) := by
  refine ordinary_of_prefix "DELETE" (by decide) (by decide) ?_
  unfold Statement.delete
  repeat with_reducible apply prefix_append
  decide

theorem ordinary_createTable (table : String) (columns : List String) (ifNotExists : Bool)
    (foreignKeys : List String) :
    Ordinary (Statement.createTable table columns ifNotExists foreignKeys) := by
  refine ordinary_of_prefix "CREATE" (by decide) (by decide) ?_
  unfold Statement.createTable
  repeat with_reducible apply prefix_append
  decide

theorem ordinary_createUniqueIndex (table column : String) :
    Ordinary (Statement.createUniqueIndex table column) := by
  refine ordinary_of_prefix "CREATE" (by decide) (by decide) ?_
  unfold Statement.createUniqueIndex
  repeat with_reducible apply prefix_append
  decide

theorem ordinary_renameTable (old new : String) :
    Ordinary (Statement.renameTable old new) := by
  refine ordinary_of_prefix "ALTER" (by decide) (by decide) ?_
  unfold Statement.renameTable
  repeat with_reducible apply prefix_append
  decide

theorem ordinary_addColumn (table column : String) :
    Ordinary (Statement.addColumn table column) := by
  refine ordinary_of_prefix "ALTER" (by decide) (by decide) ?_
  unfold Statement.addColumn
  repeat with_reducible apply prefix_append
  decide

theorem ordinary_dropColumn (table column : String) :
    Ordinary (Statement.dropColumn table column) := by
  refine ordinary_of_prefix "ALTER" (by decide) (by decide) ?_
  unfold Statement.dropColumn
  repeat with_reducible apply prefix_append
  decide

theorem ordinary_dropTable (table : String) :
    Ordinary (Statement.dropTable table) := by
  refine ordinary_of_prefix "DROP" (by decide) (by decide) ?_
  unfold Statement.dropTable
  repeat with_reducible apply prefix_append
  decide

def Dialect.catalogWord : Dialect → String
  | .postgres => "SELECT"
  | .sqlite => "PRAGMA"

theorem prefix_tableList (d : Dialect) :
    "SELECT".toList ++ [' '] <+: (Catalog.tableList d).toList := by
  cases d
  all_goals
    unfold Catalog.tableList
    repeat with_reducible apply prefix_append
    decide

theorem prefix_tableColumns (d : Dialect) (table : String) :
    d.catalogWord.toList ++ [' '] <+: (Catalog.tableColumns d table).toList := by
  cases d
  all_goals
    unfold Catalog.tableColumns
    repeat with_reducible apply prefix_append
    decide

theorem prefix_tableConstraints (d : Dialect) (table : String) :
    d.catalogWord.toList ++ [' '] <+: (Catalog.tableConstraints d table).toList := by
  cases d
  all_goals
    unfold Catalog.tableConstraints
    repeat with_reducible apply prefix_append
    decide

theorem ordinary_tableList (d : Dialect) : Ordinary (Catalog.tableList d) :=
  ordinary_of_prefix "SELECT" (by decide) (by decide) (prefix_tableList d)

theorem ordinary_tableColumns (d : Dialect) (table : String) :
    Ordinary (Catalog.tableColumns d table) :=
  ordinary_of_prefix d.catalogWord (by cases d <;> decide) (by cases d <;> decide)
    (prefix_tableColumns d table)

theorem ordinary_tableConstraints (d : Dialect) (table : String) :
    Ordinary (Catalog.tableConstraints d table) :=
  ordinary_of_prefix d.catalogWord (by cases d <;> decide) (by cases d <;> decide)
    (prefix_tableConstraints d table)

def Request.Ordinary : Request → Prop
  | statement call => RecordMapper.Ordinary call.sql
  | _ => True

def Action.Ordinary : Action → Prop
  | statement call => RecordMapper.Ordinary call.sql
  | _ => True

theorem ordinary_mistake (e : Option Error) : ∀ r ∈ Request.mistake e, r.Ordinary := by
  cases e <;> simp [Request.mistake, Request.Ordinary]

theorem ordinary_change {sql : String} (hsql : Ordinary sql) :
    ∀ r ∈ Request.change sql, r.Ordinary := by
  simp [Request.change, Request.Ordinary, hsql]

theorem ordinary_uniqueIndexes (d : Dialect) (s : Schema) :
    ∀ sql ∈ Migration.uniqueIndexes d s, Ordinary sql := by
  intro sql hsql
  unfold Migration.uniqueIndexes at hsql
  split at hsql
  · contradiction
  · obtain ⟨col, _, rfl⟩ := List.mem_map.1 hsql
    exact ordinary_createUniqueIndex s.table col.name

theorem ordinary_createTableSql {d : Dialect} {s : Schema} {sql : String}
    (h : Migration.createTableSql d s = .ok sql) : Ordinary sql := by
  obtain ⟨columns, _, h⟩ := except_bind_eq_ok h
  rw [← Except.ok.inj h]
  apply ordinary_createTable

theorem ordinary_toSql {b : Insert} {sql : String} (h : b.toSql = .ok (some sql)) :
    Ordinary sql := by
  unfold Insert.toSql at h
  split at h
  · cases h
  · dsimp only at h
    split at h
    · contradiction
    · obtain ⟨rows, _, h⟩ := except_bind_eq_ok h
      rw [← Option.some.inj (Except.ok.inj h)]
      apply ordinary_insert

namespace Action

theorem ordinary_requests {a : Action} (h : a.Ordinary) (d : Dialect) :
    ∀ r ∈ a.requests d, r.Ordinary := by
  cases a with
  | statement call =>
    simp only [requests, List.mem_singleton, forall_eq]
    exact h
  | commit => simp [requests, Request.Ordinary]
  | first q =>
    simp only [requests, List.forall_mem_append, List.mem_singleton, forall_eq]
    exact ⟨ordinary_mistake _, ordinary_select _ _ _ _⟩
  | all q =>
    simp only [requests, List.forall_mem_append, List.mem_singleton, forall_eq]
    exact ⟨ordinary_mistake _, ordinary_select _ _ _ _⟩
  | insert b =>
    simp only [requests, List.forall_mem_append]
    refine ⟨ordinary_mistake _, ?_⟩
    split
    · simp [Request.Ordinary]
    · simp
    · rename_i sql hsql
      simp [Request.Ordinary, ordinary_toSql hsql]
  | update u =>
    simp only [requests, List.forall_mem_append]
    refine ⟨⟨ordinary_mistake _, ?_⟩, ordinary_change (ordinary_update _ _ _)⟩
    split <;> simp [Request.Ordinary]
  | delete x =>
    simp only [requests, List.forall_mem_append]
    exact ⟨ordinary_mistake _, ordinary_change (ordinary_delete _ _)⟩
  | createTable s =>
    simp only [requests]
    split
    · simp [Request.Ordinary]
    · rename_i sql hsql
      simp only [List.forall_mem_append, List.forall_mem_cons, List.mem_flatMap]
      refine ⟨ordinary_change (ordinary_createTableSql hsql), trivial, ?_⟩
      rintro r ⟨index, hindex, hr⟩
      exact ordinary_change (ordinary_uniqueIndexes d s index hindex) r hr
  | tableList => simpa [requests, Request.Ordinary] using ordinary_tableList d
  | tableColumns table => simpa [requests, Request.Ordinary] using ordinary_tableColumns d table
  | tableConstraints table =>
    simpa [requests, Request.Ordinary] using ordinary_tableConstraints d table
  | renameTable old new =>
    exact List.forall_mem_cons.2 ⟨trivial, ordinary_change (ordinary_renameTable _ _)⟩
  | addColumn table col =>
    refine List.forall_mem_cons.2 ⟨trivial, ?_⟩
    split
    · simp [Request.Ordinary]
    · rw [List.forall_mem_append]
      refine ⟨ordinary_change (ordinary_addColumn _ _), ?_⟩
      split
      · exact ordinary_change (ordinary_createUniqueIndex _ _)
      · simp
  | dropColumn table column =>
    exact List.forall_mem_cons.2 ⟨trivial, ordinary_change (ordinary_dropColumn _ _)⟩
  | dropTable table =>
    exact List.forall_mem_cons.2 ⟨trivial, ordinary_change (ordinary_dropTable _)⟩

end Action

end RecordMapper
