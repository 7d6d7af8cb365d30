import RecordMapper.Connection
import RecordMapper.Dialect

/-!
Sessions: the unit of work over one connection.

The first statement after a commit opens a transaction, and nothing lasts until the next commit.
Disconnecting takes back whatever is uncommitted. A session remembers whether it is connected,
whether it opened a transaction, and whether a write is pending in it; a commit or a disconnect
forgets the last two before it calls the connection, so they stay forgotten when that call fails.
-/

namespace RecordMapper

structure Session (σ : Type) where
  dialect : Dialect
  link : σ
  connected : Bool := false
  inTransaction : Bool := false
  pendingWrites : Bool := false
  log : List LogLine := []

/-- Work done through a session. It may fail, and what was done before stays done. -/
abbrev SessionM (σ : Type) := ExceptT Error (StateM (Session σ))

namespace Session

def logged (level : LogLevel) (text : String) (s : Session σ) : Session σ :=
  { s with log := s.log ++ [⟨level, text⟩] }

def report (level : LogLevel) (text : String) : SessionM σ Unit := modify (logged level text)

def liftExcept : Except Error α → SessionM σ α
  | .ok a => pure a
  | .error e => throw e

def call (c : Connection σ) (sql : String) (run : σ → Except Error α × σ) : SessionM σ α :=
  fun s =>
    let r := run s.link
    (r.1, { s with link := r.2, log := s.log ++ c.announce sql })

def connect : SessionM σ Unit := do
  let s ← get
  if !s.connected then
    set { s with connected := true }
    report .info ("Session connected (" ++ s.dialect.name ++ ")")

def disconnect (c : Connection σ) : SessionM σ Unit := do
  let s ← get
  if s.connected then
    if s.inTransaction then
      if s.pendingWrites then
        report .warn "Session disconnected with uncommitted changes, rolling back"
      modify fun s => { s with inTransaction := false, pendingWrites := false }
      discard <| call c "ROLLBACK" (c.execute "ROLLBACK")
    modify fun s => { s with connected := false }
    report .info ("Session disconnected (" ++ s.dialect.name ++ ")")

def beginIfNeeded (c : Connection σ) : SessionM σ Unit := do
  let s ← get
  if !s.connected then throw (.invalidArgument .notConnected)
  if !s.inTransaction then
    discard <| call c "BEGIN" (c.execute "BEGIN")
    modify fun s => { s with inTransaction := true }

def execute (c : Connection σ) (sql : String) : SessionM σ Nat := do
  beginIfNeeded c
  modify fun s => { s with pendingWrites := true }
  call c sql (c.execute sql)

def commit (c : Connection σ) : SessionM σ Unit := do
  if (← get).inTransaction then
    modify fun s => { s with inTransaction := false, pendingWrites := false }
    discard <| call c "COMMIT" (c.execute "COMMIT")

def fetchOne (c : Connection σ) (sql : String) : SessionM σ (Option Row) := do
  beginIfNeeded c
  call c sql (c.fetchOptional sql)

def fetchAll (c : Connection σ) (sql : String) : SessionM σ (List Row) := do
  beginIfNeeded c
  call c sql (c.fetchAll sql)

/-- The end of a session: it disconnects, and can only log that this failed. -/
def close (c : Connection σ) (s : Session σ) : Session σ :=
  match disconnect c s with
  | (.ok _, s) => s
  | (.error e, s) => s.logged .warn ("Failed to disconnect session: " ++ e.message)

end Session

end RecordMapper
