import RecordMapper.Connection.Scripted
import RecordMapper.Proofs.Builder.Refusal
import RecordMapper.Proofs.Session.Brackets

namespace RecordMapper

open Request

namespace Session

/-- Whether a session and the state behind its connection stand as before. The log may have
grown. -/
structure Untouched (s t : Session σ) : Prop where
  link : t.link = s.link
  connected : t.connected = s.connected
  inTransaction : t.inTransaction = s.inTransaction
  pendingWrites : t.pendingWrites = s.pendingWrites

theorem Untouched.refl (s : Session σ) : Untouched s s := ⟨rfl, rfl, rfl, rfl⟩

theorem Untouched.of_logged {s t : Session σ} {level : LogLevel} {text : String}
    (h : Untouched (s.logged level text) t) : Untouched s t :=
  ⟨h.link, h.connected, h.inTransaction, h.pendingWrites⟩

variable (c : Connection σ)

theorem meetAll_of_lead {rs : List Request} {r : Request} {e : Error} (hlead : lead? rs = some r)
    {s : Session σ} (hr : ∀ t, t.connected = s.connected → meet c r t = (.error e, t)) :
    (meetAll c rs s).1 = .error e ∧ Untouched s (meetAll c rs s).2 := by
  induction rs generalizing s with
  | nil => contradiction
  | cons q rs ih =>
    rw [meetAll, bind_apply]
    cases q with
    | report level text =>
      obtain ⟨herror, huntouched⟩ := ih hlead (s := s.logged level text) hr
      exact ⟨herror, huntouched.of_logged⟩
    | _ =>
      cases hlead
      rw [hr s rfl]
      exact ⟨rfl, .refl s⟩

theorem connected_beginIfNeeded (s : Session σ) :
    (beginIfNeeded c s).2.connected = s.connected := by
  rw [beginIfNeeded_apply]
  split
  · rfl
  split
  · rfl
  · split <;> rfl

theorem connected_meet (r : Request) (s : Session σ) : (meet c r s).2.connected = s.connected := by
  cases r with
  | statement call =>
    have hbegin := connected_beginIfNeeded c s
    rw [meet, statement_apply]
    cases hresult : beginIfNeeded c s with
    | mk result begun =>
      rw [hresult] at hbegin
      cases result <;> exact hbegin
  | commit =>
    rw [meet, commit_apply]
    split <;> rfl
  | report level text => rfl
  | fail e => rfl

end Session

def Connection.BlamesDatabase (c : Connection σ) : Prop :=
  ∀ (call : Call) (l : σ) (e : Error), (call.send c l).1 = .error e → e.kind = .database

theorem send_traced (c : Connection σ) (call : Call) (l : σ × List Call) :
    call.send c.traced l = ((call.send c l.1).1, (call.send c l.1).2, l.2 ++ [call]) := by
  obtain ⟨kind, sql⟩ := call
  cases kind <;> rfl

theorem Connection.BlamesDatabase.traced {c : Connection σ} (hc : c.BlamesDatabase) :
    c.traced.BlamesDatabase := by
  intro call l e h
  rw [send_traced] at h
  exact hc call l.1 e h

namespace Session

variable {c : Connection σ}

theorem kind_of_beginIfNeeded (hc : c.BlamesDatabase) {s : Session σ} (hs : s.connected = true)
    {e : Error} (h : (beginIfNeeded c s).1 = .error e) : e.kind = .database := by
  cases hresult : beginIfNeeded c s with
  | mk result begun =>
    rw [hresult] at h
    cases h
    cases begins_of_eq c hresult with
    | refused hunconnected =>
      rw [hs] at hunconnected
      contradiction
    | failed _ _ hsend => exact hc .begin s.link e (by rw [hsend])

theorem kind_of_meet (hc : c.BlamesDatabase) {s : Session σ} (hs : s.connected = true)
    {r : Request} (hr : ∀ e, r ≠ .fail e) {e : Error} (h : (meet c r s).1 = .error e) :
    e.kind = .database := by
  cases r with
  | statement call =>
    rcases statement_cases c (Prod.ext h rfl) with ⟨e', hbegin, he⟩ | ⟨begun, _, _, hsend, _⟩
    · cases he
      exact kind_of_beginIfNeeded hc hs (by rw [hbegin])
    · exact hc call begun.link e hsend
  | commit =>
    rw [meet, commit_apply] at h
    split at h
    · exact hc .commit s.link e h
    · contradiction
  | report level text => contradiction
  | fail e' => exact absurd rfl (hr e')

theorem kind_of_meetAll (hc : c.BlamesDatabase) {rs : List Request} (hrs : ∀ e, .fail e ∉ rs)
    {s : Session σ} (hs : s.connected = true) {e : Error} (h : (meetAll c rs s).1 = .error e) :
    e.kind = .database := by
  induction rs generalizing s with
  | nil => contradiction
  | cons r rs ih =>
    have hr : ∀ e, r ≠ .fail e := fun e he => hrs e (he ▸ List.mem_cons_self ..)
    have hmeet := connected_meet c r s
    rw [meetAll, bind_apply] at h
    cases hresult : meet c r s with
    | mk result next =>
      rw [hresult] at h hmeet
      cases result with
      | error e' =>
        cases h
        exact kind_of_meet hc hs hr (by rw [hresult])
      | ok u => exact ih (fun e he => hrs e (List.mem_cons_of_mem r he)) (hmeet.trans hs) h

theorem error_of_bind {work : SessionM σ α} {next : α → SessionM σ β} {s : Session σ} {e : Error}
    (h : (work s).1 = .error e) : ((work >>= next) s).1 = .error e := by
  rw [bind_apply]
  generalize work s = r at h
  obtain ⟨result, t⟩ := r
  cases h
  rfl

theorem error_of_discard {work : SessionM σ α} {s : Session σ} {e : Error} :
    ((discard work : SessionM σ PUnit) s).1 = .error e ↔ (work s).1 = .error e := by
  rw [discard_apply]
  cases (work s).1 <;> simp [Except.map]

end Session

open Session

namespace Task

variable (c : Connection σ)

theorem run_of_executes {t : Task} (ht : t.executes = true) (s : Session σ) :
    (t.action s.dialect).run c s = meetAll c (t.requests s.dialect) s := by
  cases t with
  | insert xs => rw [action, Action.run, insert_eq c s.dialect]; rfl
  | update schema calls => rw [action, Action.run, update_eq c s.dialect]; rfl
  | delete schema calls => rw [action, Action.run, delete_eq c s.dialect]; rfl
  | createTable schema => exact createTable_apply c schema s
  | renameTable old new =>
    simp [action, requests, Action.run, Action.requests, Migration.renameTable, run_eq, meetAll,
      meet]
  | addColumn table col => exact addColumn_apply c table col s
  | dropColumn table column =>
    simp [action, requests, Action.run, Action.requests, Migration.dropColumn, run_eq, meetAll,
      meet]
  | dropTable table =>
    simp [action, requests, Action.run, Action.requests, Migration.dropTable, run_eq, meetAll, meet]
  | _ => contradiction

theorem error_of_fetchAll {sql : String} {s : Session σ} {e : Error}
    (h : (meetAll c [.statement ⟨.fetchAll, sql⟩] s).1 = .error e) :
    (fetchAll c sql s).1 = .error e := by
  rwa [meetAll_singleton, meet, Session.statement, error_of_discard] at h

theorem error_of_first {q : Query α} {d : Dialect} {s : Session σ} {e : Error}
    (h : (meetAll c ((Action.first q).requests d) s).1 = .error e) :
    (q.first c s).1 = .error e := by
  rw [Action.requests] at h
  rw [Query.first, Conditions.check]
  cases herror : q.conditions.error with
  | some e' =>
    rw [herror] at h
    cases h
    rfl
  | none =>
    rw [herror, mistake, List.nil_append, meetAll_singleton, meet, Session.statement,
      error_of_discard] at h
    rw [liftExcept_ok, pure_bind]
    exact error_of_bind h

theorem error_of_all {q : Query α} {d : Dialect} {s : Session σ} {e : Error}
    (h : (meetAll c ((Action.all q).requests d) s).1 = .error e) : (q.all c s).1 = .error e := by
  rw [Action.requests] at h
  rw [Query.all, Conditions.check]
  cases herror : q.conditions.error with
  | some e' =>
    rw [herror] at h
    cases h
    rfl
  | none =>
    rw [herror] at h
    rw [liftExcept_ok, pure_bind]
    exact error_of_bind (error_of_fetchAll c h)

theorem run_of_error {t : Task} {s : Session σ} {e : Error}
    (h : (meetAll c (t.requests s.dialect) s).1 = .error e) :
    ((t.action s.dialect).run c s).1 = .error e := by
  cases ht : t.executes with
  | true => rwa [run_of_executes c ht]
  | false =>
    cases t with
    | first m calls => exact error_of_discard.2 (error_of_first c h)
    | all m calls => exact error_of_discard.2 (error_of_all c h)
    | tableList =>
      rw [action, Action.run, error_of_discard, Migration.tableList, get_bind_apply]
      exact error_of_bind (error_of_fetchAll c h)
    | tableColumns table =>
      rw [action, Action.run, error_of_discard, Migration.tableColumns, get_bind_apply]
      exact error_of_bind (error_of_fetchAll c h)
    | tableConstraints table =>
      rw [action, Action.run, error_of_discard, Migration.tableConstraints, get_bind_apply]
      exact error_of_bind (error_of_fetchAll c h)
    | _ => contradiction

theorem refused_of_fault {t : Task} {s : Session σ} {e : Error}
    (h : lead? (t.requests s.dialect) = some (.fail e)) :
    ((t.action s.dialect).run c s).1 = .error e ∧
      Untouched s ((t.action s.dialect).run c s).2 := by
  obtain ⟨herror, huntouched⟩ := meetAll_of_lead c h (s := s) fun _ _ => rfl
  exact ⟨run_of_error c herror, (t.action s.dialect).state_run c s ▸ huntouched⟩

theorem refused_of_unconnected {t : Task} {s : Session σ} {call : Call}
    (h : lead? (t.requests s.dialect) = some (.statement call)) (hs : s.connected = false) :
    ((t.action s.dialect).run c s).1 = .error (.invalidArgument .notConnected) ∧
      Untouched s ((t.action s.dialect).run c s).2 := by
  obtain ⟨herror, huntouched⟩ := meetAll_of_lead c h (s := s)
    fun u hu => statement_of_unconnected c (hu.trans hs) call
  exact ⟨run_of_error c herror, (t.action s.dialect).state_run c s ▸ huntouched⟩

end Task

/-- A task with something wrong with it, or one that needs a connection and has none, fails with an
error that says so and changes nothing: its connection receives no call. The error is one of the
database only where a record of the caller's own says that. A batch of nothing is inserted without
a connection. A task that reads nothing fails with another error than the database's only before
any call. -/
theorem unsent_of_refused {c : Connection σ} (hc : c.BlamesDatabase)
    (s : Session (σ × List Call)) (t : Task) :
    let done := (t.action s.dialect).run c.traced s
    ((∃ e, t.Fault s.dialect e) ∨ s.connected = false ∧ t ≠ .insert [] →
      ∃ e, done.1 = .error e ∧
        (t.Fault s.dialect e ∨ s.connected = false ∧ e = .invalidArgument .notConnected) ∧
        (e.kind = .database → ∃ xs, t = .insert xs ∧ ∃ x ∈ xs, x.record = .error e) ∧
        Untouched s done.2) ∧
      (Insert.ofItems s.dialect []).commit c.traced s = (.ok none, s) ∧
      (t.executes = true → ∀ e, done.1 = .error e → e.kind ≠ .database → Untouched s done.2) := by
  intro done
  have hfault : ∀ {e}, lead? (t.requests s.dialect) = some (.fail e) →
      t.Fault s.dialect e ∧ done.1 = .error e ∧ Untouched s done.2 := fun h =>
    ⟨Task.fault_of_lead h, Task.refused_of_fault c.traced h⟩
  refine ⟨fun h => ?_, rfl, fun ht e herror he => ?_⟩
  · rcases Task.requests_cases s.dialect t with ⟨rfl, hnone⟩ | ⟨e, hlead⟩ | ⟨⟨call, hlead⟩, _⟩
    · rcases h with ⟨e, hwrong⟩ | ⟨_, hne⟩
      · obtain ⟨e', hlead⟩ := Task.lead_of_fault hwrong
        rw [hnone] at hlead
        contradiction
      · contradiction
    · obtain ⟨hwrong, herror, huntouched⟩ := hfault hlead
      exact ⟨e, herror, .inl hwrong, hwrong.record_of_database, huntouched⟩
    · rcases h with ⟨e, hwrong⟩ | ⟨hs, _⟩
      · obtain ⟨e', hlead'⟩ := Task.lead_of_fault hwrong
        cases hlead.symm.trans hlead'
      · obtain ⟨herror, huntouched⟩ := Task.refused_of_unconnected c.traced hlead hs
        exact ⟨_, herror, .inr ⟨hs, rfl⟩, nofun, huntouched⟩
  · have hrun := Task.run_of_executes c.traced ht s
    rcases Task.requests_cases s.dialect t with ⟨rfl, hnone⟩ | ⟨e', hlead⟩ | ⟨⟨call, hlead⟩, hrest⟩
    · contradiction
    · exact (hfault hlead).2.2
    · cases hs : s.connected with
      | false => exact (Task.refused_of_unconnected c.traced hlead hs).2
      | true =>
        -- a connected session meets no other errors than those of its connection
        refine absurd (kind_of_meetAll hc.traced hrest hs ?_) he
        rw [← hrun]
        exact herror

namespace Sample

def lopsided : Schema where
  table := "lopsided"
  columns := [
    { name := "title", type := .plainString },
    { name := "size", type := .integer (some (.literal (.text "wide"))) }]

def midway : Session (Script × List Call) where
  dialect := .sqlite
  link := ({}, [.begin, ⟨.execute, "INSERT INTO t VALUES (1);"⟩])
  connected := true
  inTransaction := true
  pendingWrites := true

end Sample

theorem Script.kind_of_run {ofCount : Nat → α} {ofRows : List Row → α} {sql : String} {s : Script}
    {e : Error} (h : (run ofCount ofRows sql s).1 = .error e) : e.kind = .database := by
  unfold run reply at h
  split at h
  · split at h
    · cases h
      rfl
    · contradiction
  · split at h
    · contradiction
    · split at h
      · contradiction
      · contradiction
      · cases h
        rfl

theorem Script.blamesDatabase : Script.connection.BlamesDatabase := by
  rintro ⟨kind, sql⟩ l e h
  cases kind with
  | execute => exact kind_of_run (except_map_eq_error h)
  | fetchOptional => exact kind_of_run (except_map_eq_error h)
  | fetchAll => exact kind_of_run (except_map_eq_error h)

namespace Sample

theorem lopsided_unsent :
    Script.connection.BlamesDatabase ∧
    (Task.createTable lopsided).Fault .sqlite
      (.validation (.badDefault (.text "wide") .integer)) ∧
    let done := ((Task.createTable lopsided).action .sqlite).run Script.connection.traced midway
    ∃ e, done.1 = .error e ∧ e.kind ≠ .database ∧ done.2.link.2 = midway.link.2 ∧
      done.2.inTransaction = true := by
  have hcolumn : (Task.createTable lopsided).Fault .sqlite
      (.validation (.badDefault (.text "wide") .integer)) :=
    .column (List.mem_cons_of_mem _ (List.mem_cons_self ..)) rfl
  refine ⟨Script.blamesDatabase, hcolumn, ?_⟩
  obtain ⟨e, herror, _, he, huntouched⟩ :=
    (unsent_of_refused Script.blamesDatabase midway (.createTable lopsided)).1 (.inl ⟨_, hcolumn⟩)
  refine ⟨e, herror, fun h => ?_, congrArg Prod.snd huntouched.link, huntouched.inTransaction⟩
  obtain ⟨_, habsurd, _⟩ := he h
  contradiction

end Sample

end RecordMapper
