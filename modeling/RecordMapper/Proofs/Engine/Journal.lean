import RecordMapper.Engine
import RecordMapper.Proofs.Session.Abandonment

namespace RecordMapper

open Session Request

namespace SchemaVersion

def creation (d : Dialect) : String :=
  Statement.createTable "orm_db_version"
    [quoteName "value" ++ " " ++ d.integerColumn ++ " " ++ Keyword.notNull] true []

def query : String := Statement.select "orm_db_version" ["value"] [] (some 1)

def reading : Call := ⟨.fetchOptional, query⟩

def insertion (d : Dialect) (v : Int64) : String :=
  Statement.insert "orm_db_version" ["value"] [[d.literal (.integer v)]] none

def change (d : Dialect) (v : Int64) : String :=
  Statement.update "orm_db_version" [quoteName "value" ++ " = " ++ d.literal (.integer v)] []

theorem createTableSql_schema (d : Dialect) :
    Migration.createTableSql d schema = .ok (creation d) := by
  cases d <;> rfl

theorem uniqueIndexes_schema (d : Dialect) : Migration.uniqueIndexes d schema = [] := by
  cases d <;> rfl

theorem requests_createTable (d : Dialect) :
    (Action.createTable schema).requests d =
      Request.change (creation d) ++ [.report .info "Created table orm_db_version"] := by
  rw [Action.requests, createTableSql_schema, uniqueIndexes_schema]
  rfl

theorem requests_insert (d : Dialect) (v : Int64) :
    (Action.insert (Insert.add { dialect := d } (model.entity ⟨v⟩))).requests d =
      Request.change (insertion d v) := rfl

theorem requests_update (d : Dialect) (v : Int64) :
    (Action.update
      (({ dialect := d, schema := schema } : Update).set "value" (.integer v))).requests d =
        Request.change (change d v) := rfl

theorem execute_ne_reading (sql : String) : (⟨.execute, sql⟩ : Call) ≠ reading := nofun

theorem ordinary_query : RecordMapper.Ordinary query := ordinary_select _ _ _ _

theorem ordinary_reading : RecordMapper.Ordinary reading.sql := ordinary_query

theorem ordinary_creation (d : Dialect) : RecordMapper.Ordinary (creation d) :=
  ordinary_createTable _ _ _ _

theorem ordinary_insertion (d : Dialect) (v : Int64) : RecordMapper.Ordinary (insertion d v) :=
  ordinary_insert _ _ _ _

theorem ordinary_change (d : Dialect) (v : Int64) : RecordMapper.Ordinary (change d v) :=
  ordinary_update _ _ _

theorem ofRow_integer (v : Int64) : model.ofRow [.integer v] = .ok ⟨v⟩ := rfl

theorem toSql_atMostOne (d : Dialect) :
    ({ dialect := d, model := model } : Query SchemaVersion).atMostOne.toSql = query := rfl

theorem first_apply (c : Connection σ) (d : Dialect) (s : Session σ) :
    Query.first c { dialect := d, model := model } s =
      match fetchOne c query s with
      | (.ok none, s) => (.ok none, s)
      | (.ok (some row), s) => ((model.ofRow row).map some, s)
      | (.error e, s) => (.error e, s) := by
  rw [Query.first, Conditions.check, liftExcept_ok, pure_bind, bind_apply, toSql_atMostOne]
  generalize fetchOne c query s = r
  obtain ⟨e | _ | row, t⟩ := r
  · rfl
  · rfl
  · simp [map_apply]

end SchemaVersion

inductive HookCall
  | create
  | update (stored target : Int64)
  deriving DecidableEq

inductive Sight
  | read (row : Option Row)
  | hook (call : HookCall) (failed : Bool)
  deriving DecidableEq

structure Journal (σ : Type) where
  calls : List (Entry σ) := []
  sights : List Sight := []

namespace Connection

def sights (c : Connection σ) (call : Call) (l : σ) : List Sight :=
  if call = SchemaVersion.reading then
    match (c.fetchOptional SchemaVersion.query l).1 with
    | .ok row => [.read row]
    | .error _ => []
  else []

theorem sights_of_ne (c : Connection σ) {call : Call}
    (h : call ≠ SchemaVersion.reading) (l : σ) : c.sights call l = [] := if_neg h

theorem sights_of_read {c : Connection σ} {l : σ} {row : Option Row}
    (h : (c.fetchOptional SchemaVersion.query l).1 = .ok row) :
    c.sights SchemaVersion.reading l = [.read row] := by
  rw [sights, if_pos rfl, h]

theorem sights_of_error {c : Connection σ} {call : Call} {l : σ} {e : Error}
    (h : (call.send c l).1 = .error e) : c.sights call l = [] := by
  rw [sights]
  split
  · rename_i hcall
    subst hcall
    have hquery : (c.fetchOptional SchemaVersion.query l).1 = .error e := except_map_eq_error h
    rw [hquery]
  · rfl

def journal (c : Connection σ) (call : Call) (l : σ) (j : Journal σ) : Journal σ where
  calls := j.calls ++ [⟨call, l, failed (call.send c l).1⟩]
  sights := j.sights ++ c.sights call l

def journaling (c : Connection σ) (call : Call) (run : σ → α × σ) (s : σ × Journal σ) :
    α × (σ × Journal σ) :=
  let r := run s.1
  (r.1, r.2, c.journal call s.1 s.2)

def journaled (c : Connection σ) : Connection (σ × Journal σ) where
  execute sql := c.journaling ⟨.execute, sql⟩ (c.execute sql)
  fetchOptional sql := c.journaling ⟨.fetchOptional, sql⟩ (c.fetchOptional sql)
  fetchAll sql := c.journaling ⟨.fetchAll, sql⟩ (c.fetchAll sql)
  announce := c.announce

end Connection

theorem fetchOptional_journaled (c : Connection σ) (sql : String) (l : σ × Journal σ) :
    (c.journaled.fetchOptional sql l).1 = (c.fetchOptional sql l.1).1 := rfl

theorem send_journaled (c : Connection σ) (call : Call) (s : σ × Journal σ) :
    call.send c.journaled s =
      ((call.send c s.1).1, (call.send c s.1).2, c.journal call s.1 s.2) := by
  obtain ⟨kind, sql⟩ := call
  cases kind <;> rfl

/-- What a hook does: operations of the session that it is called in, and a result. It may choose
them by all that there is to see. -/
abbrev Plan (σ : Type) := Session (σ × Journal σ) → List Action × Except Error Unit

def Plan.hook (c : Connection σ) (call : HookCall) (p : Plan σ) : SessionM (σ × Journal σ) Unit :=
  fun s =>
    let (actions, result) := p s
    let s := runAll c.journaled (actions.map .act) s
    let j := s.link.2
    (result, { s with link :=
      (s.link.1, { j with sights := j.sights ++ [.hook call (failed result)] }) })

structure Start (σ : Type) where
  url : DbUrl
  version : Int64
  onCreate : Option (Plan σ) := none
  onUpdate : Option (Int64 → Int64 → Plan σ) := none
  link : σ

namespace Start

def hooks (c : Connection σ) (x : Start σ) : Hooks (σ × Journal σ) where
  onCreate := x.onCreate.map fun p => p.hook c .create
  onUpdate := x.onUpdate.map fun p stored target => (p stored target).hook c (.update stored target)

def run (c : Connection σ) (x : Start σ) : Except Error Unit × Engine (σ × Journal σ) :=
  Engine.connect c.journaled x.url x.version (x.hooks c) (x.link, {})

end Start

end RecordMapper
