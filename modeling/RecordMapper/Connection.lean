import RecordMapper.Error

namespace RecordMapper

inductive LogLevel
  | debug
  | info
  | warn
  deriving DecidableEq

def LogLevel.name : LogLevel → String
  | debug => "DEBUG"
  | info => "INFO"
  | warn => "WARN"

structure LogLine where
  level : LogLevel
  text : String
  deriving DecidableEq

def isTransactional (sql : String) : Bool := sql = "BEGIN" ∨ sql = "COMMIT" ∨ sql = "ROLLBACK"

/-- How each kind of call changes the state behind a connection, and what it answers. A call that
fails may change the state as well. -/
structure Connection (σ : Type) where
  execute : String → σ → Except Error Nat × σ
  fetchOptional : String → σ → Except Error (Option Row) × σ
  fetchAll : String → σ → Except Error (List Row) × σ
  -- What is logged before a statement is run.
  announce : String → List LogLine := fun _ => []

inductive CallKind
  | execute
  | fetchOptional
  | fetchAll
  deriving DecidableEq

structure Call where
  kind : CallKind
  sql : String
  deriving DecidableEq

namespace Connection

def onFirst (run : σ → α × σ) (s : σ × τ) : α × (σ × τ) :=
  let r := run s.1
  (r.1, r.2, s.2)

def beside (τ : Type) (c : Connection σ) : Connection (σ × τ) where
  execute sql := onFirst (c.execute sql)
  fetchOptional sql := onFirst (c.fetchOptional sql)
  fetchAll sql := onFirst (c.fetchAll sql)
  announce := c.announce

def noting (kind : CallKind) (sql : String) (run : σ → α × σ) (s : σ × List Call) :
    α × (σ × List Call) :=
  let r := run s.1
  (r.1, r.2, s.2 ++ [⟨kind, sql⟩])

def traced (c : Connection σ) : Connection (σ × List Call) where
  execute sql := noting .execute sql (c.execute sql)
  fetchOptional sql := noting .fetchOptional sql (c.fetchOptional sql)
  fetchAll sql := noting .fetchAll sql (c.fetchAll sql)
  announce := c.announce

end Connection

end RecordMapper
