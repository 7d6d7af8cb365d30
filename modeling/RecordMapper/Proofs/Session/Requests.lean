import RecordMapper.Builder.Insert
import RecordMapper.Builder.Query
import RecordMapper.Builder.Update
import RecordMapper.Migration

/-!
What operations ask of a session.
Main statement: an operation changes a session as the requests do that it amounts to, met one after
another up to the first that fails.
-/

namespace RecordMapper

namespace Session

theorem bind_apply (work : SessionM σ α) (next : α → SessionM σ β) (s : Session σ) :
    (work >>= next) s = match work s with
      | (.ok a, s) => next a s
      | (.error e, s) => (.error e, s) := by
  show ExceptT.bindCont next (work s).1 (work s).2 = _
  generalize work s = r
  obtain ⟨e | a, s⟩ := r <;> rfl

@[simp] theorem modify_apply (f : Session σ → Session σ) (s : Session σ) :
    (modify f : SessionM σ PUnit) s = (.ok ⟨⟩, f s) := rfl

@[simp] theorem pure_apply (a : α) (s : Session σ) : (pure a : SessionM σ α) s = (.ok a, s) := rfl

@[simp] theorem throw_apply (e : Error) (s : Session σ) :
    (throw e : SessionM σ α) s = (.error e, s) := rfl

@[simp] theorem liftExcept_apply (x : Except Error α) (s : Session σ) :
    liftExcept x s = (x, s) := by
  cases x <;> rfl

theorem get_bind_apply (next : Session σ → SessionM σ α) (s : Session σ) :
    (get >>= next) s = next s s := rfl

@[simp] theorem liftExcept_ok (a : α) : (liftExcept (.ok a) : SessionM σ α) = pure a := rfl

theorem discard_eq (work : SessionM σ α) : discard work = work >>= fun _ => pure () :=
  map_eq_pure_bind (fun _ => PUnit.unit) work

theorem map_apply (f : α → β) (work : SessionM σ α) (s : Session σ) :
    (f <$> work) s = ((work s).1.map f, (work s).2) := by
  rw [map_eq_pure_bind, bind_apply]
  generalize work s = r
  obtain ⟨e | a, s⟩ := r <;> rfl

theorem state_of_bind (work : SessionM σ α) {next : α → SessionM σ β}
    (h : ∀ a s, (next a s).2 = s) (s : Session σ) : ((work >>= next) s).2 = (work s).2 := by
  rw [bind_apply]
  generalize work s = r
  obtain ⟨e | a, s⟩ := r
  · rfl
  · exact h a s

theorem discard_apply (work : SessionM σ α) (s : Session σ) :
    (discard work : SessionM σ PUnit) s = ((work s).1.map fun _ => ⟨⟩, (work s).2) :=
  map_apply (fun _ => PUnit.unit) work s

end Session

/-- What a session can be asked for. -/
inductive Request
  | statement (call : Call)
  | commit
  | report (level : LogLevel) (text : String)
  -- A mistake that shows before anything is sent.
  | fail (e : Error)

namespace Request

def change (sql : String) : List Request := [.statement ⟨.execute, sql⟩, .commit]

def mistake : Option Error → List Request
  | some e => [fail e]
  | none => []

end Request

namespace Session

def statement (c : Connection σ) (call : Call) : SessionM σ Unit :=
  match call.kind with
  | .execute => discard (execute c call.sql)
  | .fetchOptional => discard (fetchOne c call.sql)
  | .fetchAll => discard (fetchAll c call.sql)

def meet (c : Connection σ) : Request → SessionM σ Unit
  | .statement call => statement c call
  | .commit => commit c
  | .report level text => report level text
  | .fail e => throw e

def meetAll (c : Connection σ) : List Request → SessionM σ Unit
  | [] => pure ()
  | r :: rs => do
    meet c r
    meetAll c rs

theorem meetAll_append (c : Connection σ) (rs qs : List Request) :
    meetAll c (rs ++ qs) = meetAll c rs >>= fun _ => meetAll c qs := by
  induction rs with
  | nil => simp [meetAll]
  | cons r rs ih => simp [meetAll, ih]

theorem meetAll_singleton (c : Connection σ) (r : Request) : meetAll c [r] = meet c r := by
  simp [meetAll]

end Session

open Session Request

inductive Action : Type 1
  | statement (call : Call)
  | commit
  | first {α : Type} (q : Query α)
  | all {α : Type} (q : Query α)
  | insert (b : Insert)
  | update (u : Update)
  | delete (x : Delete)
  | createTable (s : Schema)
  | tableList
  | tableColumns (table : String)
  | tableConstraints (table : String)
  | renameTable (old new : String)
  | addColumn (table : String) (col : Column)
  | dropColumn (table column : String)
  | dropTable (table : String)

namespace Action

def run (c : Connection σ) : Action → SessionM σ Unit
  | statement call => Session.statement c call
  | commit => Session.commit c
  | first q => discard (q.first c)
  | all q => discard (q.all c)
  | insert b => discard (b.commit c)
  | update u => discard (u.commit c)
  | delete x => discard (x.commit c)
  | createTable s => Migration.createTable c s
  | tableList => discard (Migration.tableList c)
  | tableColumns table => discard (Migration.tableColumns c table)
  | tableConstraints table => discard (Migration.tableConstraints c table)
  | renameTable old new => Migration.renameTable c old new
  | addColumn table col => Migration.addColumn c table col
  | dropColumn table column => Migration.dropColumn c table column
  | dropTable table => Migration.dropTable c table

def requests (d : Dialect) : Action → List Request
  | statement call => [.statement call]
  | commit => [.commit]
  | first q => mistake q.conditions.error ++ [.statement ⟨.fetchOptional, q.atMostOne.toSql⟩]
  | all q => mistake q.conditions.error ++ [.statement ⟨.fetchAll, q.toSql⟩]
  | insert b =>
    mistake b.error ++ match b.toSql with
      | .error e => [.fail e]
      | .ok none => []
      | .ok (some sql) => [.statement ⟨if b.hasKey then .fetchAll else .execute, sql⟩, .commit]
  | update u =>
    mistake u.conditions.error ++
      (if u.assignments = [] then [.fail (.invalidArgument .nothingToSet)] else []) ++
      change u.toSql
  | delete x => mistake x.conditions.error ++ change x.toSql
  | createTable s =>
    match Migration.createTableSql d s with
    | .error e => [.fail e]
    | .ok sql =>
      change sql ++ .report .info ("Created table " ++ s.table) ::
        (Migration.uniqueIndexes d s).flatMap change
  | tableList => [.statement ⟨.fetchAll, Catalog.tableList d⟩]
  | tableColumns table => [.statement ⟨.fetchAll, Catalog.tableColumns d table⟩]
  | tableConstraints table => [.statement ⟨.fetchAll, Catalog.tableConstraints d table⟩]
  | renameTable old new =>
    .report .info ("Renaming table " ++ old ++ " to " ++ new) ::
      change (Statement.renameTable old new)
  | addColumn table col =>
    .report .info ("Adding column " ++ table ++ "." ++ col.name) ::
      match col.sql d with
      | .error e => [.fail e]
      | .ok sql =>
        change (Statement.addColumn table sql) ++
          if col.unique && !d.inlineUnique then change (Statement.createUniqueIndex table col.name)
          else []
  | dropColumn table column =>
    .report .info ("Dropping column " ++ table ++ "." ++ column) ::
      change (Statement.dropColumn table column)
  | dropTable table =>
    .report .info ("Dropping table " ++ table) :: change (Statement.dropTable table)

end Action

variable (c : Connection σ)

theorem run_eq (sql : String) : Migration.run c sql = meetAll c (change sql) := by
  simp [Migration.run, change, meetAll, meet, Session.statement]

theorem runAll_eq (sqls : List String) :
    Migration.runAll c sqls = meetAll c (sqls.flatMap change) := by
  induction sqls with
  | nil => rfl
  | cons sql sqls ih => rw [Migration.runAll, List.flatMap_cons, meetAll_append, run_eq, ih]

theorem createTable_apply (schema : Schema) (s : Session σ) :
    Migration.createTable c schema s =
      meetAll c ((Action.createTable schema).requests s.dialect) s := by
  rw [Migration.createTable, get_bind_apply, Action.requests]
  cases Migration.createTableSql s.dialect schema with
  | error e => rfl
  | ok sql => simp [meetAll_append, meetAll, meet, run_eq, runAll_eq]

theorem addColumn_apply (table : String) (col : Column) (s : Session σ) :
    Migration.addColumn c table col s =
      meetAll c ((Action.addColumn table col).requests s.dialect) s := by
  rw [Migration.addColumn, get_bind_apply, Action.requests]
  cases col.sql s.dialect with
  | error e => rfl
  | ok sql =>
    by_cases h : (col.unique && !s.dialect.inlineUnique) = true
    · simp [meetAll_append, meetAll, meet, run_eq, h]
    · simp [meetAll, meet, run_eq, h]

theorem insert_eq (d : Dialect) (b : Insert) :
    discard (b.commit c) = meetAll c ((Action.insert b).requests d) := by
  rw [Insert.commit, Action.requests, discard_eq]
  cases b.error with
  | some e => rfl
  | none =>
    cases b.toSql with
    | error e => rfl
    | ok sql =>
      cases sql with
      | none => rfl
      | some sql =>
        cases h : b.hasKey
        · simp [mistake, meetAll, meet, Session.statement, discard_eq]
        · simp [mistake, meetAll, meet, Session.statement, discard_eq]

theorem update_eq (d : Dialect) (u : Update) :
    discard (u.commit c) = meetAll c ((Action.update u).requests d) := by
  rw [Update.commit, Action.requests, discard_eq, Conditions.check]
  cases u.conditions.error with
  | some e => rfl
  | none =>
    by_cases h : u.assignments = []
    · simp [mistake, meetAll, meet, h]
    · simp [mistake, change, meetAll, meet, Session.statement, discard_eq, h]

theorem delete_eq (d : Dialect) (x : Delete) :
    discard (x.commit c) = meetAll c ((Action.delete x).requests d) := by
  rw [Delete.commit, Action.requests, discard_eq, Conditions.check]
  cases x.conditions.error with
  | some e => rfl
  | none => simp [mistake, change, meetAll, meet, Session.statement, discard_eq]

theorem state_of_first (d : Dialect) (q : Query α) (s : Session σ) :
    (q.first c s).2 = (meetAll c ((Action.first q).requests d) s).2 := by
  rw [Query.first, Action.requests, Conditions.check]
  cases q.conditions.error with
  | some e => rfl
  | none =>
    rw [liftExcept_ok, pure_bind, state_of_bind]
    · simp [mistake, meetAll_singleton, meet, Session.statement, discard_apply]
    · rintro (_ | row) s
      · rfl
      · simp [map_apply]

theorem state_of_all (d : Dialect) (q : Query α) (s : Session σ) :
    (q.all c s).2 = (meetAll c ((Action.all q).requests d) s).2 := by
  rw [Query.all, Action.requests, Conditions.check]
  cases q.conditions.error with
  | some e => rfl
  | none =>
    rw [liftExcept_ok, pure_bind, state_of_bind]
    · simp [mistake, meetAll_singleton, meet, Session.statement, discard_apply]
    · simp

namespace Action

theorem state_run (a : Action) (s : Session σ) :
    (a.run c s).2 = (meetAll c (a.requests s.dialect) s).2 := by
  cases a with
  | statement call => simp [run, requests, meetAll_singleton, meet]
  | commit => simp [run, requests, meetAll_singleton, meet]
  | first q => rw [run, discard_apply, state_of_first c s.dialect]
  | all q => rw [run, discard_apply, state_of_all c s.dialect]
  | insert b => rw [run, insert_eq c s.dialect]
  | update u => rw [run, update_eq c s.dialect]
  | delete x => rw [run, delete_eq c s.dialect]
  | createTable schema => rw [run, createTable_apply]
  | tableList =>
    rw [run, discard_apply, Migration.tableList, get_bind_apply, state_of_bind]
    · simp [requests, meetAll_singleton, meet, Session.statement, discard_apply]
    · simp
  | tableColumns table =>
    rw [run, discard_apply, Migration.tableColumns, get_bind_apply, state_of_bind]
    · simp [requests, meetAll_singleton, meet, Session.statement, discard_apply]
    · simp
  | tableConstraints table =>
    rw [run, discard_apply, Migration.tableConstraints, get_bind_apply, state_of_bind]
    · simp [requests, meetAll_singleton, meet, Session.statement, discard_apply]
    · simp
  | renameTable old new => simp [run, requests, Migration.renameTable, run_eq, meetAll, meet]
  | addColumn table col => rw [run, addColumn_apply]
  | dropColumn table column => simp [run, requests, Migration.dropColumn, run_eq, meetAll, meet]
  | dropTable table => simp [run, requests, Migration.dropTable, run_eq, meetAll, meet]

end Action

end RecordMapper
