import RecordMapper.Database
import RecordMapper.Proofs.Session.Durability

namespace RecordMapper.Database

open Sql

theorem read_tableList : Command.read? (Catalog.tableList .sqlite) = none := by decide +kernel

theorem answer_of_read (db : Database) {sql : String} {command : Command}
    (hread : Command.read? sql = some command) :
    db.answer sql = if '\x00' ∈ sql.toList then .error .unsupported else db.perform command := by
  have hlist : sql ≠ Catalog.tableList .sqlite := by
    rintro rfl
    cases read_tableList.symm.trans hread
  rw [answer, if_neg hlist]
  simp [hread]

theorem answer_begin (db : Database) : db.answer "BEGIN" = db.perform .begin :=
  (db.answer_of_read (by decide +kernel)).trans (if_neg (by decide +kernel))

theorem answer_commit (db : Database) : db.answer "COMMIT" = db.perform .commit :=
  (db.answer_of_read (by decide +kernel)).trans (if_neg (by decide +kernel))

theorem answer_rollback (db : Database) : db.answer "ROLLBACK" = db.perform .rollback :=
  (db.answer_of_read (by decide +kernel)).trans (if_neg (by decide +kernel))

def effect (call : Call) (s : Store) : Store :=
  match answer { working := some s } call.sql with
  | .ok (_, db) => db.visible
  | .error _ => s

theorem send_connection (call : Call) (db : Database) :
    call.send connection db = match db.answer call.sql with
      | .ok (_, db) => (.ok (), db)
      | .error refusal => (.error (.database refusal.message), db) := by
  obtain ⟨kind, sql⟩ := call
  cases kind
  all_goals
    simp only [Call.send, connection, run]
    cases db.answer sql <;> rfl

theorem perform_of_not_boundary (db : Database) {command : Command}
    (h : command.isBoundary = false) :
    db.perform command = do
      let (answer, s) ← db.visible.apply command
      return (answer, { db.keep s with lastAffected := answer.affected.getD db.lastAffected }) := by
  cases command <;> first | rfl | contradiction

theorem answer_of_command {db : Database} {s : Store} (hs : db.working = some s) {sql : String}
    {command : Command} (hread : Command.read? sql = some command)
    (hcommand : command.isBoundary = false) :
    db.answer sql = if '\x00' ∈ sql.toList then .error .unsupported
      else (s.apply command).map fun r => (r.1,
        { db with working := some r.2, lastAffected := r.1.affected.getD db.lastAffected }) := by
  have hvisible : db.visible = s := by simp [visible, hs]
  rw [db.answer_of_read hread]
  split
  · rfl
  · rw [perform_of_not_boundary _ hcommand, hvisible]
    cases s.apply command with
    | error refusal => rfl
    | ok r => simp [keep, hs, Except.map, bind, Except.bind, pure, Except.pure]

theorem apply_of_answer {db db' : Database} {s : Store} {sql : String} {command : Command}
    {a : Answer} (hs : db.working = some s) (hread : Command.read? sql = some command)
    (hcommand : command.isBoundary = false) (h : db.answer sql = .ok (a, db')) (kind : CallKind) :
    s.apply command = .ok (a, effect ⟨kind, sql⟩ s) ∧ db'.durable = db.durable ∧
      db'.working = some (effect ⟨kind, sql⟩ s) := by
  have hopen : ({ working := some s } : Database).working = some s := rfl
  rw [effect, answer_of_command hopen hread hcommand]
  rw [answer_of_command hs hread hcommand] at h
  split at h
  · cases h
  rename_i htext
  rw [if_neg htext]
  obtain ⟨r, happly, h⟩ := except_map_eq_ok h
  cases h
  rw [happly]
  exact ⟨rfl, rfl, rfl⟩

theorem answer_ordinary {db : Database} {s : Store} (hs : db.working = some s) {call : Call}
    (hcall : Ordinary call.sql) {a : Answer} {db' : Database}
    (h : db.answer call.sql = .ok (a, db')) :
    db'.durable = db.durable ∧ db'.working = some (effect call s) := by
  cases hread : Command.read? call.sql with
  | some command => exact (apply_of_answer hs hread (hcall command hread) h call.kind).2
  | none =>
    rw [effect]
    rw [answer, hread] at h ⊢
    split at h
    · rename_i hlist
      cases h
      exact ⟨rfl, by simp [hlist, hs, visible]⟩
    · split at h
      · cases h
      · cases h

theorem effect_cases (s : Store) {sql : String} {command : Command}
    (hread : Command.read? sql = some command) (hcommand : command.isBoundary = false)
    (kind : CallKind) :
    effect ⟨kind, sql⟩ s = s ∨ ∃ a, s.apply command = .ok (a, effect ⟨kind, sql⟩ s) := by
  cases hanswer : answer { working := some s } sql with
  | error refusal =>
    rw [effect, hanswer]
    exact .inl rfl
  | ok r => exact .inr ⟨r.1, (apply_of_answer rfl hread hcommand hanswer kind).1⟩

theorem answer_of_send {db db' : Database} {kind : CallKind} {sql : String}
    (h : Call.send connection ⟨kind, sql⟩ db = (.ok (), db')) :
    ∃ a, db.answer sql = .ok (a, db') := by
  rw [send_connection] at h
  split at h
  · rename_i a next hanswer
    cases h
    exact ⟨a, hanswer⟩
  · simp at h

theorem transactional : Transactional connection durable working effect where
  begins := by
    intro db db' hnone h
    rw [send_connection, Call.begin, answer_begin] at h
    simp only [perform, hnone, Prod.mk.injEq, true_and] at h
    subst h
    exact ⟨rfl, rfl⟩
  beginFails := by
    intro db db' e hnone h
    rw [send_connection, Call.begin, answer_begin] at h
    simp [perform, hnone] at h
  runs := by
    intro db db' call s hcall hs h
    rw [send_connection] at h
    split at h
    · rename_i a next hanswer
      cases h
      exact answer_ordinary hs hcall hanswer
    · cases h
  runFails := by
    intro db db' call s e _ hs h
    rw [send_connection] at h
    split at h
    · cases h
    · cases h
      exact ⟨rfl, hs⟩
  commits := by
    intro db s hs
    rw [send_connection, Call.commit, answer_commit]
    simp only [perform, hs]
    exact ⟨_, rfl, rfl, rfl⟩
  rollsBack := by
    intro db s hs
    rw [send_connection, Call.rollback, answer_rollback]
    simp only [perform, hs]
    exact ⟨_, rfl, rfl, rfl⟩

end RecordMapper.Database

namespace RecordMapper.Sample

def shelf : Schema where
  table := "shelf"
  columns := [{ name := "title", type := .plainString }]

def title (text : String) : Insert where
  dialect := .sqlite
  items := [⟨"Shelf", ⟨shelf, [.text text], rfl⟩⟩]

def shelving : List Operation := [
  .connect,
  .act (.createTable shelf),
  .act (.insert (title "kept")),
  .act (.statement ⟨.execute, "INSERT INTO \"shelf\" (\"title\") VALUES ('lost');"⟩),
  .act (.statement ⟨.fetchAll, "SELECT * FROM \"no such table\";"⟩),
  .disconnect,
  .connect,
  .act (.all { dialect := .sqlite, model := Model.ofSchema "Shelf" shelf : Query Record })]

theorem shelving_ordinary : ∀ op ∈ shelving, op.Ordinary := by
  simp only [shelving, List.forall_mem_cons, List.not_mem_nil, false_implies, implies_true]
  refine ⟨trivial, trivial, trivial, ?_, ?_, trivial, trivial, trivial, trivial⟩
  · exact ordinary_of_prefix "INSERT" (by decide) (by decide) (by decide)
  · exact ordinary_of_prefix "SELECT" (by decide) (by decide) (by decide)

theorem shelving_lasts :
    ({} : Database).working = none ∧ (∀ op ∈ shelving, op.Ordinary) ∧
    let s := Session.runAll Database.connection shelving (Session.fresh .sqlite {})
    let kept := replay Database.effect
      (Event.lasting (Session.history Database.connection shelving (Session.fresh .sqlite {}))) {}
    s.link.durable = kept ∧
      (s.link.working.isSome = true ↔ s.inTransaction = true) ∧
      (∀ s', s' = (Session.disconnect Database.connection s).2 ∨ s' = s.close Database.connection →
        s'.link.working = none ∧ s'.link.durable = kept) :=
  ⟨rfl, shelving_ordinary,
    lasting_of_run Database.transactional .sqlite (rfl : ({} : Database).working = none)
      shelving_ordinary⟩

end RecordMapper.Sample
