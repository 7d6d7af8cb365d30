import RecordMapper.Proofs.Database.Transactions
import RecordMapper.Proofs.Session.Independence

/-!
A database where a statement that fails takes its transaction with it, as PostgreSQL has it.
Main statement: its connection keeps that rule, whatever the statements do.
-/

namespace RecordMapper

open Sql Database

/-- Data with a transaction that a statement may abort. -/
structure Guarded (δ : Type) where
  durable : δ
  standing : Standing δ := .idle
  -- Which of the next calls are cancelled, whatever they ask.
  cancelled : List Bool := []

namespace Guarded

def cancellation : Error := .database "canceling statement due to statement timeout"

def refusal : Error :=
  .database "current transaction is aborted, commands ignored until end of transaction block"

def ends (sql : String) : Bool := sql = "COMMIT" || sql = "ROLLBACK"

def alone (ask : String → δ → Except Error (Answer × δ)) (sql : String) (g : Guarded δ) :
    Except Error Answer × Guarded δ :=
  if sql = "BEGIN" then (.ok {}, { g with standing := .opened g.durable })
  else if ends sql then (.ok {}, g)
  else match ask sql g.durable with
    | .ok (a, w) => (.ok a, { g with durable := w })
    | .error e => (.error e, g)

def inside (ask : String → δ → Except Error (Answer × δ)) (sql : String) (w : δ) (g : Guarded δ) :
    Except Error Answer × Guarded δ :=
  if sql = "COMMIT" then (.ok {}, { g with durable := w, standing := .idle })
  else if sql = "ROLLBACK" then (.ok {}, { g with standing := .idle })
  else if sql = "BEGIN" then (.ok {}, g)
  else match ask sql w with
    | .ok (a, w) => (.ok a, { g with standing := .opened w })
    | .error e => (.error e, { g with standing := .aborted })

def next (g : Guarded δ) : Guarded δ := { g with cancelled := g.cancelled.tail }

def answer (ask : String → δ → Except Error (Answer × δ)) (sql : String) (g : Guarded δ) :
    Except Error Answer × Guarded δ :=
  match g.standing with
  | .aborted =>
    if ends sql then (.ok {}, { g.next with standing := .idle }) else (.error refusal, g.next)
  | .idle => if g.cancelled.headD false then (.error cancellation, g.next) else g.next.alone ask sql
  | .opened w =>
    if g.cancelled.headD false then
      (.error cancellation, { g.next with standing := if ends sql then .idle else .aborted })
    else g.next.inside ask sql w

def run (ask : String → δ → Except Error (Answer × δ)) (take : Answer → α) (sql : String)
    (g : Guarded δ) : Except Error α × Guarded δ :=
  ((g.answer ask sql).1.map take, (g.answer ask sql).2)

def connection (ask : String → δ → Except Error (Answer × δ)) : Connection (Guarded δ) where
  execute := run ask fun a => a.affected.getD 0
  fetchOptional := run ask fun a => a.rows.head?
  fetchAll := run ask Answer.rows

def effect (ask : String → δ → Except Error (Answer × δ)) (call : Call) (w : δ) : δ :=
  match ask call.sql w with
  | .ok (_, w) => w
  | .error _ => w

variable {ask : String → δ → Except Error (Answer × δ)}

theorem send_connection (call : Call) (g : Guarded δ) :
    call.send (connection ask) g =
      ((g.answer ask call.sql).1.map fun _ => (), (g.answer ask call.sql).2) := by
  obtain ⟨kind, sql⟩ := call
  cases kind
  all_goals
    simp only [Call.send, connection, run]
    cases (g.answer ask sql).1 <;> rfl

theorem answer_of_idle {g : Guarded δ} (h : g.standing = .idle) (sql : String) :
    g.answer ask sql =
      if g.cancelled.headD false then (.error cancellation, g.next) else g.next.alone ask sql := by
  rw [answer, h]

theorem answer_of_opened {g : Guarded δ} {w : δ} (h : g.standing = .opened w) (sql : String) :
    g.answer ask sql =
      if g.cancelled.headD false then
        (.error cancellation, { g.next with standing := if ends sql then .idle else .aborted })
      else g.next.inside ask sql w := by
  rw [answer, h]

theorem ends_of_ordinary {sql : String} (h : Ordinary sql) : ends sql = false := by
  have hne := h.not_mem
  simp only [List.mem_cons, List.not_mem_nil, or_false, not_or] at hne
  simp [ends, hne]

theorem inside_ordinary {sql : String} (hsql : Ordinary sql) (w : δ) (g : Guarded δ) :
    g.inside ask sql w = match ask sql w with
      | .ok (a, w) => (.ok a, { g with standing := .opened w })
      | .error e => (.error e, { g with standing := .aborted }) := by
  have hne := hsql.not_mem
  simp only [List.mem_cons, List.not_mem_nil, or_false, not_or] at hne
  rw [inside, if_neg hne.2.1, if_neg hne.2.2, if_neg hne.1]

theorem aborting {d : Dialect}
    (hask : ∀ {call : Call} (w : δ), Looks d call.sql → effect ask call w = w) :
    Aborting (connection ask) durable standing (effect ask) d where
  begins := by
    intro g g' hidle h
    rw [send_connection, answer_of_idle hidle] at h
    split at h
    · cases h
    · cases h
      exact ⟨rfl, rfl⟩
  beginFails := by
    intro g g' e hidle h
    rw [send_connection, answer_of_idle hidle] at h
    split at h
    · cases h
      exact hidle
    · cases h
  runs := by
    intro g g' call w hcall hopened h
    rw [send_connection, answer_of_opened hopened, inside_ordinary hcall] at h
    rw [effect]
    split at h
    · cases h
    · cases hanswer : ask call.sql w with
      | error e => simp [hanswer, Except.map] at h
      | ok r =>
        rw [hanswer] at h
        cases h
        exact ⟨rfl, rfl⟩
  aborts := by
    intro g g' call w e hcall hopened h
    rw [send_connection, answer_of_opened hopened, inside_ordinary hcall] at h
    split at h
    · cases h
      simp [ends_of_ordinary hcall]
    · cases hanswer : ask call.sql w with
      | error e' =>
        rw [hanswer] at h
        cases h
        rfl
      | ok r => simp [hanswer, Except.map] at h
  refuses := by
    intro g call hcall haborted
    rw [send_connection, answer, haborted]
    simp only [ends_of_ordinary hcall]
    exact ⟨refusal, g.next, rfl, rfl, rfl, haborted⟩
  commits := by
    intro g g' w hopened h
    rw [send_connection, answer_of_opened hopened] at h
    split at h
    · cases h
    · cases h
      exact ⟨rfl, rfl⟩
  commitFails := by
    intro g g' w e hopened h
    rw [send_connection, answer_of_opened hopened] at h
    split at h
    · cases h
      rfl
    · cases h
  looks w h := hask w h

theorem cancelled_alone (sql : String) (g : Guarded δ) :
    (g.alone ask sql).2.cancelled = g.cancelled := by
  rw [alone]
  split
  · rfl
  split
  · rfl
  · split <;> rfl

theorem cancelled_inside (sql : String) (w : δ) (g : Guarded δ) :
    (g.inside ask sql w).2.cancelled = g.cancelled := by
  rw [inside]
  split
  · rfl
  split
  · rfl
  split
  · rfl
  · split <;> rfl

theorem cancelled_answer (sql : String) (g : Guarded δ) :
    (g.answer ask sql).2.cancelled = g.cancelled.tail := by
  rw [answer]
  split
  · split <;> rfl
  · split
    · rfl
    · exact cancelled_alone sql g.next
  · split
    · rfl
    · exact cancelled_inside sql _ g.next

theorem inside_alike (sql : String) (w : δ) (g g' : Guarded δ) :
    (g.inside ask sql w).1 = (g'.inside ask sql w).1 := by
  rw [inside, inside]
  split
  · rfl
  split
  · rfl
  split
  · rfl
  · split <;> rfl

def Calm (g : Guarded δ) : Prop := ∀ b ∈ g.cancelled, b = false

theorem Calm.head {g : Guarded δ} (h : g.Calm) : ¬ g.cancelled.headD false = true := by
  rw [Calm] at h
  cases hcancelled : g.cancelled with
  | nil => simp
  | cons b rest => simp [h b (by simp [hcancelled])]

theorem Calm.answer_alike {g g' : Guarded δ} {w : δ} (h : g.Calm) (h' : g'.Calm)
    (hg : g.standing = .opened w) (hg' : g'.standing = .opened w) (sql : String) :
    (g.answer ask sql).1 = (g'.answer ask sql).1 := by
  rw [answer_of_opened hg, answer_of_opened hg', if_neg h.head, if_neg h'.head]
  exact inside_alike sql w g.next g'.next

theorem steady : Steady (connection ask) standing Calm where
  sent := by
    intro g call h b hb
    rw [send_connection, cancelled_answer] at hb
    exact h b (List.mem_of_mem_tail hb)
  begins := by
    intro g h hidle
    rw [send_connection, answer_of_idle hidle, if_neg h.head]
    rfl
  executes sql h h' hg hg' := congrArg (Except.map _) (h.answer_alike h' hg hg' sql)
  fetches sql h h' hg hg' := congrArg (Except.map _) (h.answer_alike h' hg hg' sql)
  fetchesAll sql h h' hg hg' := congrArg (Except.map _) (h.answer_alike h' hg hg' sql)

end Guarded

theorem isQuery_of_word {d : Dialect} {ts : List Token} {command : Command}
    (h : command? (.word d.catalogWord :: ts) = some command) : command.isQuery = true := by
  cases d with
  | postgres => exact isQuery_of_select (command_select ts ▸ h)
  | sqlite =>
    have hpragma : command? (.word "PRAGMA" :: ts) = pragma? ts := rfl
    rw [Dialect.catalogWord, hpragma] at h
    exact isQuery_of_pragma h

theorem Looks.isQuery {d : Dialect} {sql : String} (h : Looks d sql) {command : Command}
    (hread : Command.read? sql = some command) : command.isQuery = true := by
  cases h with
  | select hselect =>
    cases hselect.symm.trans hread
    rfl
  | tableList =>
    obtain ⟨ts, hts⟩ := command_of_prefix (by decide) (prefix_tableList d) hread
    exact isQuery_of_word (d := .postgres) hts
  | tableColumns table =>
    obtain ⟨ts, hts⟩ :=
      command_of_prefix (by cases d <;> decide) (prefix_tableColumns d table) hread
    exact isQuery_of_word hts
  | tableConstraints table =>
    obtain ⟨ts, hts⟩ :=
      command_of_prefix (by cases d <;> decide) (prefix_tableConstraints d table) hread
    exact isQuery_of_word hts

namespace Database

theorem state_of_query {s s' : Store} {command : Command} {a : Answer}
    (hcommand : command.isQuery = true) (h : s.apply command = .ok (a, s')) : s' = s := by
  cases command with
  | select table columns f limit? =>
    obtain ⟨_, _, h⟩ := except_bind_eq_ok h
    cases h
    rfl
  | tableColumns name =>
    cases h
    rfl
  | tableConstraints name =>
    cases h
    rfl
  | _ => contradiction

theorem effect_of_looks {d : Dialect} {call : Call} (s : Store) (h : Looks d call.sql) :
    effect call s = s := by
  obtain ⟨kind, sql⟩ := call
  cases hread : Command.read? sql with
  | none =>
    rw [effect, answer]
    by_cases hlist : sql = Catalog.tableList .sqlite
    · rw [if_pos hlist]
      rfl
    · rw [if_neg hlist, hread]
      split <;> simp_all
  | some command =>
    rcases effect_cases s hread (h.ordinary command hread) kind with heffect | ⟨a, happly⟩
    · exact heffect
    · exact state_of_query (h.isQuery hread) happly

def ask (sql : String) (s : Store) : Except Error (Answer × Store) :=
  match answer { working := some s } sql with
  | .ok (a, db) => .ok (a, db.visible)
  | .error refusal => .error (.database refusal.message)

theorem effect_ask (call : Call) (s : Store) : Guarded.effect ask call s = effect call s := by
  rw [Guarded.effect, ask, effect]
  cases answer { working := some s } call.sql <;> rfl

end Database

namespace Database

theorem aborting :
    Aborting (Guarded.connection ask) Guarded.durable Guarded.standing effect .postgres := by
  have heffect : Guarded.effect ask = effect := by
    funext call s
    exact effect_ask call s
  rw [← heffect]
  exact Guarded.aborting fun s h => (effect_ask _ s).trans (effect_of_looks s h)

end Database

namespace Sample

def guarded : Connection (Guarded Store) := Guarded.connection ask

def shelfStore : Store where
  tables := [{
    definition := {
      name := "shelf"
      columns := [{ name := "title", type := "TEXT" }]
      foreignKeys := [] }
    rows := [[.text "kept"]] }]

def clearing : Task := .delete shelf []

def retitling : Task := .update { shelf with table := "attic" } [.set "title" (.text "lost")]

def after (cancelled : List Bool) (ts : List Task) : Session (Guarded Store) :=
  Session.runAll guarded (.connect :: Task.operations .postgres ts)
    (Session.fresh .postgres { durable := shelfStore, cancelled })

def anew (s : Session (Guarded Store)) : Session (Guarded Store) :=
  (Session.connect (Session.fresh .postgres { durable := s.link.durable })).2

/-- A task is refused after one that failed, though it is answered in a session of its own. -/
theorem clearing_refused :
    Aborting guarded Guarded.durable Guarded.standing effect .postgres ∧
      Steady guarded Guarded.standing Guarded.Calm ∧ (after [] [retitling]).link.Calm ∧
      (∃ e, (retitling.perform guarded .postgres (after [] [])).1 = .error e ∧
        e.kind = .database) ∧
      (clearing.perform guarded .postgres (anew (after [] [retitling]))).1 = .ok (1 : Nat) ∧
      (clearing.perform guarded .postgres (after [] [retitling])).1 = .error Guarded.refusal := by
  have hretitled : ((Update.ofCalls .postgres { shelf with table := "attic" }
      [.set "title" (.text "lost")]).commit guarded (after [] [])).1 =
        .error (.database "no such table: attic") := by decide +kernel
  have hanew : ((Delete.ofCalls .postgres shelf []).commit guarded
      (anew (after [] [retitling]))).1 = .ok 1 := by decide +kernel
  have hafter : ((Delete.ofCalls .postgres shelf []).commit guarded
      (after [] [retitling])).1 = .error Guarded.refusal := by decide +kernel
  have hcalm : ∀ b ∈ (after [] [retitling]).link.cancelled, b = false := by decide +kernel
  exact ⟨aborting, Guarded.steady, hcalm, ⟨_, hretitled, rfl⟩, hanew, hafter⟩

theorem clearing_alike :
    Aborting guarded Guarded.durable Guarded.standing effect .postgres ∧
      Steady guarded Guarded.standing Guarded.Calm ∧
      (clearing.perform guarded .postgres (after [false, false, true] [])).1 =
        .error Guarded.cancellation ∧
      (clearing.perform guarded .postgres (after [false, false, true] [clearing])).1 =
        (clearing.perform guarded .postgres (anew (after [false, false, true] [clearing]))).1 := by
  have hcancelled : ((Delete.ofCalls .postgres shelf []).commit guarded
      (after [false, false, true] [])).1 = .error Guarded.cancellation := by decide +kernel
  have hsent : ¬ ∃ e ∈ Session.wire guarded (.connect :: Task.operations .postgres [clearing])
      (Session.fresh .postgres { durable := shelfStore, cancelled := [false, false, true] }),
        e.spoils = true := by decide +kernel
  have hcalm : ∀ b ∈ (after [false, false, true] [clearing]).link.cancelled, b = false := by
    decide +kernel
  let other : Guarded Store := { durable := (after [false, false, true] [clearing]).link.durable }
  have hother : other.Calm := by simp [Guarded.Calm, other]
  exact ⟨aborting, Guarded.steady, hcancelled,
    (independent_of_tasks aborting Guarded.steady rfl [clearing]).1 hsent hcalm other rfl rfl hother
      clearing⟩

end Sample

end RecordMapper
