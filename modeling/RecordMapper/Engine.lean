import RecordMapper.Builder.Insert
import RecordMapper.Builder.Query
import RecordMapper.Builder.Update
import RecordMapper.Migration
import RecordMapper.Url

/-!
Engines: a connected database at a known version of its tables.

The version is the only row of a table of its own. Connecting creates that table if it is missing,
calls one hook where no version is stored and another where a different one is, and stores the
version that was asked for. A hook's error is the engine's, and what the hook committed stays.
-/

namespace RecordMapper

structure SchemaVersion where
  value : Int64
  deriving DecidableEq

namespace SchemaVersion

def schema : Schema where
  table := "orm_db_version"
  columns := [{ name := "value", type := .plainInteger, nullable := false }]

def model : Model SchemaVersion where
  ident := "SchemaVersion"
  schema := schema
  toRecord v := (Record.empty schema).set "value" (.integer v.value)
  ofRecord r := do return ⟨← r.field .int64 "value"⟩

end SchemaVersion

inductive EngineState
  | disconnected
  | connected
  | versionTableEnsured
  | migrated
  deriving DecidableEq

def EngineState.name : EngineState → String
  | disconnected => "Disconnected"
  | connected => "Connected"
  | versionTableEnsured => "VersionTableEnsured"
  | migrated => "Migrated"

/-- What the user does about versions: one hook for a database without any, and one for a database
at another version, which gets the stored and the wanted version. -/
structure Hooks (σ : Type) where
  onCreate : Option (SessionM σ Unit) := none
  onUpdate : Option (Int64 → Int64 → SessionM σ Unit) := none

structure Engine (σ : Type) where
  url : DbUrl
  version : Int64
  link : σ
  state : EngineState := .disconnected
  log : List LogLine := []

abbrev EngineM (σ : Type) := ExceptT Error (StateM (Engine σ))

namespace Engine

def dialect (e : Engine σ) : Dialect := e.url.driver.dialect

def logged (level : LogLevel) (text : String) (e : Engine σ) : Engine σ :=
  { e with log := e.log ++ [⟨level, text⟩] }

def opened (url : DbUrl) (version : Int64) (link : σ) : Engine σ :=
  { url, version, link, log := [⟨.info, "Connected to " ++ url.display⟩] }

def setState (state : EngineState) (e : Engine σ) : Engine σ :=
  { e.logged .info ("Engine state " ++ e.state.name ++ " -> " ++ state.name) with state }

def session (e : Engine σ) : Session σ :=
  (Session.connect { dialect := e.dialect, link := e.link, log := e.log }).2

def afterSession (c : Connection σ) (e : Engine σ) (s : Session σ) : Engine σ :=
  let s := s.close c
  { e with link := s.link, log := s.log }

/-- Work in a session of its own, which is disconnected if the work succeeds and closed anyway. -/
def withSession (c : Connection σ) (work : SessionM σ α) : EngineM σ α := fun e =>
  let work : SessionM σ α := do
    let a ← work
    Session.disconnect c
    return a
  let r := work e.session
  (r.1, e.afterSession c r.2)

def migrate (c : Connection σ) (version : Int64) (hooks : Hooks σ) : SessionM σ Unit := do
  let d := (← get).dialect
  let shown (v : Int64) := (Value.integer v).display
  let stored ← match ← Query.first c { dialect := d, model := SchemaVersion.model } with
    | some row => pure row.value
    | none => do
      Session.report .info ("No schema version stored, creating schema version " ++ shown version)
      hooks.onCreate.getD (pure ())
      let row := SchemaVersion.model.entity ⟨version⟩
      discard <| Insert.commit c (Insert.add { dialect := d } row)
      pure version
  if stored ≠ version then
    Session.report .info
      ("Migrating schema from version " ++ shown stored ++ " to " ++ shown version)
    hooks.onUpdate.elim (pure ()) fun hook => hook stored version
    let update : Update := { dialect := d, schema := SchemaVersion.schema }
    discard <| Update.commit c (update.set "value" (.integer version))

def bootstrap (c : Connection σ) (hooks : Hooks σ) : EngineM σ Unit := do
  modify (setState .connected)
  withSession c (Migration.createTable c SchemaVersion.schema)
  modify (setState .versionTableEnsured)
  withSession c (migrate c (← get).version hooks)
  modify (setState .migrated)

def connect (c : Connection σ) (url : DbUrl) (version : Int64) (hooks : Hooks σ) (link : σ) :
    Except Error Unit × Engine σ :=
  bootstrap c hooks (opened url version link)

def createTables (c : Connection σ) (schemas : List Schema) : EngineM σ Unit :=
  withSession c (schemas.forM (Migration.createTable c))

def dropAllTables (c : Connection σ) : EngineM σ Unit :=
  withSession c do
    let tables ← Migration.tableList c
    Migration.runAll c (Statement.clearDatabase (← get).dialect tables)
    Session.report .info ("Dropped " ++ number tables.length ++ " tables")

def disconnected (e : Engine σ) : Engine σ :=
  (e.setState .disconnected).logged .info ("Disconnecting from " ++ e.url.display)

def summary (e : Engine σ) : String :=
  "Engine \x7b url: " ++ String.ofList (Text.escape e.url.display.toList) ++
    ", version: " ++ (Value.integer e.version).display ++
    ", state: " ++ e.state.name ++
    ", adapter: " ++ (match e.dialect with
      | .postgres => "PostgresAdapter"
      | .sqlite => "SqliteAdapter") ++ " \x7d"

end Engine

end RecordMapper
