import RecordMapper.Proofs.Session.Aborting
import RecordMapper.Proofs.Session.Unsent

/-!
What tasks have to do with the tasks before them.
Main statement: over a connection where a statement that fails takes its transaction with it, a task
answers what it would answer in a session of its own, until such a statement fails; from then on no
task is answered.
-/

namespace RecordMapper

open Session Request

namespace Task

def Answer : Task → Type
  | @first α _ _ => Option α
  | @all α _ _ => List α
  | insert _ => Option (List Value)
  | update _ _ => Nat
  | delete _ _ => Nat
  | createTable _ => Unit
  | tableList => List String
  | tableColumns _ => List ColumnInfo
  | tableConstraints _ => List ConstraintInfo
  | renameTable _ _ => Unit
  | addColumn _ _ => Unit
  | dropColumn _ _ => Unit
  | dropTable _ => Unit

def perform (c : Connection σ) (d : Dialect) : (t : Task) → SessionM σ t.Answer
  | first m calls => (Query.ofCalls d m calls).first c
  | all m calls => (Query.ofCalls d m calls).all c
  | insert xs => (Insert.ofItems d xs).commit c
  | update s calls => (Update.ofCalls d s calls).commit c
  | delete s calls => (Delete.ofCalls d s calls).commit c
  | createTable s => Migration.createTable c s
  | tableList => Migration.tableList c
  | tableColumns table => Migration.tableColumns c table
  | tableConstraints table => Migration.tableConstraints c table
  | renameTable old new => Migration.renameTable c old new
  | addColumn table col => Migration.addColumn c table col
  | dropColumn table column => Migration.dropColumn c table column
  | dropTable table => Migration.dropTable c table

theorem discard_perform (c : Connection σ) (d : Dialect) (t : Task) :
    discard (t.perform c d) = (t.action d).run c := by
  have hunit : ∀ work : SessionM σ Unit, (discard work : SessionM σ PUnit) = work := by
    intro work
    funext s
    rw [discard_apply]
    cases work s with
    | mk result t => cases result <;> rfl
  cases t
  all_goals first | rfl | exact hunit _

theorem error_of_perform {c : Connection σ} {d : Dialect} {t : Task} {s : Session σ} {e : Error} :
    (t.perform c d s).1 = .error e ↔ ((t.action d).run c s).1 = .error e := by
  rw [← discard_perform, error_of_discard]

theorem state_perform (c : Connection σ) (d : Dialect) (t : Task) (s : Session σ) :
    (t.perform c d s).2 = ((t.action d).run c s).2 := by
  rw [← discard_perform, discard_apply]

end Task

def Agrees (R S : Session σ → Session σ → Prop) (work : SessionM σ α) : Prop :=
  ∀ ⦃s t⦄, R s t → (work s).1 = (work t).1 ∧ ∀ a, (work s).1 = .ok a → S (work s).2 (work t).2

namespace Agrees

variable {R S T : Session σ → Session σ → Prop}

theorem lift (x : Except Error α) : Agrees R R (Session.liftExcept x) := by
  intro s t h
  simp only [liftExcept_apply]
  exact ⟨trivial, fun _ _ => h⟩

theorem pure (a : α) : Agrees R R (Pure.pure a) := lift (.ok a)

theorem bind {work : SessionM σ α} {next : α → SessionM σ β} (h : Agrees R S work)
    (hnext : ∀ a, Agrees S T (next a)) : Agrees R T (work >>= next) := by
  intro s t hst
  obtain ⟨hresult, hstate⟩ := h hst
  simp only [bind_apply]
  cases hs : work s with
  | mk result s' =>
    cases ht : work t with
    | mk result' t' =>
      rw [hs, ht] at hresult
      simp only at hresult
      subst hresult
      cases result with
      | error e => exact ⟨rfl, fun _ h => by cases h⟩
      | ok a =>
        have hrelated := hstate a (by rw [hs])
        rw [hs, ht] at hrelated
        exact hnext a hrelated

theorem throw_bind (e : Error) (next : α → SessionM σ β) :
    Agrees R S (MonadExcept.throw e >>= next) :=
  fun _ _ _ => ⟨rfl, fun _ h => by cases h⟩

theorem lift_bind {x : Except Error α} {next : α → SessionM σ β}
    (h : ∀ a, x = .ok a → Agrees R S (next a)) :
    Agrees R S (Session.liftExcept x >>= next) := by
  cases x with
  | error e => exact throw_bind e next
  | ok a => exact h a rfl

theorem map {work : SessionM σ α} (f : α → β) (h : Agrees R S work) : Agrees R S (f <$> work) := by
  rw [map_eq_pure_bind]
  exact h.bind fun a => pure (f a)

theorem forget {work : SessionM σ α} (h : Agrees R S work) :
    Agrees R (fun _ _ => True) work :=
  fun _ _ hst => ⟨(h hst).1, fun _ _ => trivial⟩

theorem get {next : Session σ → SessionM σ α} (hnext : ∀ ⦃s t⦄, R s t → next s = next t)
    (h : ∀ s, Agrees R S (next s)) : Agrees R S (get >>= next) := by
  intro s t hst
  rw [get_bind_apply, get_bind_apply, hnext hst]
  exact h t hst

end Agrees

/-- Whether calls fail for nothing but what they ask and what they see. -/
structure Steady (c : Connection σ) (standing : σ → Standing δ) (steady : σ → Prop) : Prop where
  sent {l : σ} (call : Call) : steady l → steady (call.send c l).2
  begins {l : σ} : steady l → standing l = .idle → (Call.begin.send c l).1 = .ok ()
  executes {l l' : σ} {w : δ} (sql : String) : steady l → steady l' → standing l = .opened w →
    standing l' = .opened w → (c.execute sql l).1 = (c.execute sql l').1
  fetches {l l' : σ} {w : δ} (sql : String) : steady l → steady l' → standing l = .opened w →
    standing l' = .opened w → (c.fetchOptional sql l).1 = (c.fetchOptional sql l').1
  fetchesAll {l l' : σ} {w : δ} (sql : String) : steady l → steady l' → standing l = .opened w →
    standing l' = .opened w → (c.fetchAll sql l).1 = (c.fetchAll sql l').1

namespace Session

structure Alike (durable : σ → δ) (standing : σ → Standing δ) (steady : σ → Prop)
    (s t : Session σ) : Prop where
  dialect_eq : s.dialect = t.dialect
  durable_eq : durable s.link = durable t.link
  left : Poised durable standing s
  right : Poised durable standing t
  steady_left : steady s.link
  steady_right : steady t.link

structure Abreast (durable : σ → δ) (standing : σ → Standing δ) (steady : σ → Prop)
    (s t : Session σ) : Prop where
  dialect_eq : s.dialect = t.dialect
  within : ∃ kept w, Within durable standing kept w s ∧ Within durable standing kept w t
  steady_left : steady s.link
  steady_right : steady t.link

variable {c : Connection σ} {durable : σ → δ} {standing : σ → Standing δ}
  {effect : Call → δ → δ} {d : Dialect} {steady : σ → Prop} {s t : Session σ}

theorem Poised.begun_steady (hc : Aborting c durable standing effect d)
    (hst : Steady c standing steady) (hs : Poised durable standing s) (hsteady : steady s.link) :
    ∃ t, beginIfNeeded c s = (.ok (), t) ∧ t.dialect = s.dialect ∧
      Within durable standing (durable s.link) (durable s.link) t ∧ steady t.link := by
  cases hbegin : beginIfNeeded c s with
  | mk result t =>
    rcases hs.begun hc hbegin with ⟨rfl, ht⟩ | ⟨⟨e, rfl⟩, _⟩
    · cases begins_of_eq c hbegin with
      | already => exact ⟨s, rfl, rfl, ht, hsteady⟩
      | began => exact ⟨_, rfl, rfl, ht, hst.sent .begin hsteady⟩
    · cases begins_of_eq c hbegin with
      | refused hunconnected => cases hs.connected.symm.trans hunconnected
      | failed _ hclosed hsend =>
        have hok := hst.begins hsteady (hs.standing_closed hclosed)
        rw [hsend] at hok
        cases hok

theorem agrees_begin (hc : Aborting c durable standing effect d) (hst : Steady c standing steady) :
    Agrees (Alike durable standing steady) (Abreast durable standing steady) (beginIfNeeded c) := by
  intro s t h
  obtain ⟨s', hs, hdialect, hwithin, hsteady⟩ := h.left.begun_steady hc hst h.steady_left
  obtain ⟨t', ht, hdialect', hwithin', hsteady'⟩ := h.right.begun_steady hc hst h.steady_right
  rw [hs, ht]
  refine ⟨rfl, fun _ _ => ⟨?_, ⟨_, _, hwithin, h.durable_eq ▸ hwithin'⟩, hsteady, hsteady'⟩⟩
  exact (hdialect.trans h.dialect_eq).trans hdialect'.symm

theorem agrees_pendingWrites (b : Bool) :
    Agrees (Abreast durable standing steady) (Abreast durable standing steady)
      (modify fun s => { s with pendingWrites := b }) := by
  rintro s t ⟨hdialect, ⟨kept, w, hs, ht⟩, hsteady, hsteady'⟩
  exact ⟨rfl, fun _ _ =>
    ⟨hdialect, ⟨kept, w, hs.pendingWrites b, ht.pendingWrites b⟩, hsteady, hsteady'⟩⟩

theorem agrees_call (kind : CallKind) (hc : Aborting c durable standing effect d)
    (hst : Steady c standing steady) {sql : String} (hsql : Ordinary sql)
    {run : σ → Except Error α × σ}
    (hsend : ∀ l, Call.send c ⟨kind, sql⟩ l = ((run l).1.map fun _ => (), (run l).2))
    (hrun : ∀ {l l' : σ} {w : δ}, steady l → steady l' → standing l = .opened w →
      standing l' = .opened w → (run l).1 = (run l').1) :
    Agrees (Abreast durable standing steady) (Abreast durable standing steady)
      (Session.call c sql run) := by
  rintro s t ⟨hdialect, ⟨kept, w, hs, ht⟩, hsteady, hsteady'⟩
  have hresult := hrun hsteady hsteady' hs.standing_eq ht.standing_eq
  have hstate : ∀ u : Session σ, (Session.call c sql run u).2 = u.sent c ⟨kind, sql⟩ := by
    intro u
    simp [Session.call, sent, hsend]
  refine ⟨hresult, fun a ha => ?_⟩
  have hleft : (Call.send c ⟨kind, sql⟩ s.link).1 = .ok () := by
    rw [hsend, show (run s.link).1 = .ok a from ha]
    rfl
  have hright : (Call.send c ⟨kind, sql⟩ t.link).1 = .ok () := by
    rw [hsend, ← hresult, show (run s.link).1 = .ok a from ha]
    rfl
  rw [hstate, hstate]
  exact ⟨hdialect, ⟨kept, _, hs.ran hc hsql hleft, ht.ran hc hsql hright⟩,
    hst.sent _ hsteady, hst.sent _ hsteady'⟩

theorem agrees_execute (hc : Aborting c durable standing effect d) (hst : Steady c standing steady)
    {sql : String} (hsql : Ordinary sql) :
    Agrees (Alike durable standing steady) (Abreast durable standing steady) (execute c sql) :=
  (agrees_begin hc hst).bind fun _ => (agrees_pendingWrites true).bind fun _ =>
    agrees_call .execute hc hst hsql (fun _ => rfl) (hst.executes sql)

theorem agrees_fetchOne (hc : Aborting c durable standing effect d) (hst : Steady c standing steady)
    {sql : String} (hsql : Ordinary sql) :
    Agrees (Alike durable standing steady) (Abreast durable standing steady) (fetchOne c sql) :=
  (agrees_begin hc hst).bind fun _ =>
    agrees_call .fetchOptional hc hst hsql (fun _ => rfl) (hst.fetches sql)

theorem agrees_fetchAll (hc : Aborting c durable standing effect d) (hst : Steady c standing steady)
    {sql : String} (hsql : Ordinary sql) :
    Agrees (Alike durable standing steady) (Abreast durable standing steady) (fetchAll c sql) :=
  (agrees_begin hc hst).bind fun _ =>
    agrees_call .fetchAll hc hst hsql (fun _ => rfl) (hst.fetchesAll sql)

theorem agrees_commit (hc : Aborting c durable standing effect d)
    (hst : Steady c standing steady) :
    Agrees (Abreast durable standing steady) (Alike durable standing steady) (commit c) := by
  rintro s t ⟨hdialect, ⟨kept, w, hs, ht⟩, hsteady, hsteady'⟩
  obtain ⟨hleft, hkept⟩ := hs.committed hc
  obtain ⟨hright, hkept'⟩ := ht.committed hc
  have hresult : (commit c s).1 = (commit c t).1 := by
    rw [commit_apply, commit_apply, if_pos hs.inTransaction, if_pos ht.inTransaction]
    exact congrArg (Except.map _)
      (hst.executes "COMMIT" hsteady hsteady' hs.standing_eq ht.standing_eq)
  have hsent : ∀ {u : Session σ}, u.inTransaction = true → steady u.link →
      (commit c u).2.dialect = u.dialect ∧ steady (commit c u).2.link := by
    intro u hu hsteady
    rw [commit_apply, if_pos hu]
    exact ⟨rfl, hst.sent .commit hsteady⟩
  refine ⟨hresult, fun _ hok => ?_⟩
  obtain ⟨hds, hss⟩ := hsent hs.inTransaction hsteady
  obtain ⟨hdt, hst'⟩ := hsent ht.inTransaction hsteady'
  exact ⟨(hds.trans hdialect).trans hdt.symm,
    (hkept hok).trans (hkept' (hresult ▸ hok)).symm, hleft, hright, hss, hst'⟩

theorem agrees_report (level : LogLevel) (text : String) :
    Agrees (Alike durable standing steady) (Alike durable standing steady)
      (report level text) := by
  rintro s t ⟨hdialect, hdurable, ⟨hs, hclosed, hopen⟩, ⟨ht, hclosed', hopen'⟩, hsteady, hsteady'⟩
  exact ⟨rfl, fun _ _ =>
    ⟨hdialect, hdurable, ⟨hs, hclosed, hopen⟩, ⟨ht, hclosed', hopen'⟩, hsteady, hsteady'⟩⟩

theorem agrees_change (hc : Aborting c durable standing effect d) (hst : Steady c standing steady)
    {sql : String} (hsql : Ordinary sql) :
    Agrees (Alike durable standing steady) (Alike durable standing steady)
      (Migration.run c sql) :=
  ((agrees_execute hc hst hsql).map _).bind fun _ => agrees_commit hc hst

theorem agrees_changes (hc : Aborting c durable standing effect d) (hst : Steady c standing steady)
    {sqls : List String} (hsqls : ∀ sql ∈ sqls, Ordinary sql) :
    Agrees (Alike durable standing steady) (Alike durable standing steady)
      (Migration.runAll c sqls) := by
  induction sqls with
  | nil => exact .pure ()
  | cons sql sqls ih =>
    obtain ⟨hsql, hrest⟩ := List.forall_mem_cons.1 hsqls
    exact (agrees_change hc hst hsql).bind fun _ => ih hrest

theorem agrees_reading (hc : Aborting c durable standing effect d)
    (hst : Steady c standing steady) {sql : String} (hsql : Ordinary sql)
    (read : List Row → Except Error α) :
    Agrees (Alike durable standing steady) (Abreast durable standing steady)
      (fetchAll c sql >>= fun rows => Session.liftExcept (read rows)) :=
  (agrees_fetchAll hc hst hsql).bind fun rows => .lift (read rows)

end Session

namespace Task

variable {c : Connection σ} {durable : σ → δ} {standing : σ → Standing δ}
  {effect : Call → δ → δ} {d : Dialect} {steady : σ → Prop}

theorem agrees (hc : Aborting c durable standing effect d) (hst : Steady c standing steady)
    (t : Task) :
    Agrees (Alike durable standing steady) (fun _ _ => True) (t.perform c d) := by
  cases t with
  | first m calls =>
    refine Agrees.forget (S := Abreast durable standing steady) (.lift_bind fun _ _ =>
      (agrees_fetchOne hc hst (ordinary_select _ _ _ _)).bind fun row => ?_)
    cases row with
    | none => exact .pure none
    | some row => exact (Agrees.lift _).map some
  | all m calls =>
    exact Agrees.forget (.lift_bind fun _ _ => agrees_reading hc hst (ordinary_select _ _ _ _) _)
  | insert xs =>
    -- the batch is whatever its items made of it, and only its mistake, text and key matter
    show Agrees _ _ ((Insert.ofItems d xs).commit c)
    rw [Insert.commit]
    cases (Insert.ofItems d xs).error with
    | some e => exact .throw_bind e _
    | none =>
      refine Agrees.forget (S := Alike durable standing steady) (.lift_bind fun sql? hsql => ?_)
      cases sql? with
      | none => exact .pure none
      | some sql =>
        have hordinary := ordinary_toSql hsql
        have hids (ids : List Value) : Agrees (Abreast durable standing steady)
            (Alike durable standing steady) (do Session.commit c; return some ids) :=
          (agrees_commit hc hst).bind fun _ => .pure (some ids)
        cases (Insert.ofItems d xs).hasKey with
        | false =>
          exact ((agrees_execute hc hst hordinary).map _).bind fun _ => hids []
        | true =>
          exact (agrees_fetchAll hc hst hordinary).bind fun rows => hids _
  | update s calls =>
    refine Agrees.forget (S := Alike durable standing steady) (.lift_bind fun _ _ => ?_)
    split
    · exact .throw_bind _ _
    · exact (agrees_execute hc hst (ordinary_update _ _ _)).bind fun affected =>
        (agrees_commit hc hst).bind fun _ => .pure affected
  | delete s calls =>
    exact Agrees.forget (.lift_bind fun _ _ =>
      (agrees_execute hc hst (ordinary_delete _ _)).bind fun affected =>
        (agrees_commit hc hst).bind fun _ => .pure affected)
  | createTable s =>
    refine Agrees.forget (S := Alike durable standing steady)
      (.get (fun s t h => by rw [h.dialect_eq]) fun s => .lift_bind fun sql hsql => ?_)
    exact (agrees_change hc hst (ordinary_createTableSql hsql)).bind fun _ =>
      (agrees_report _ _).bind fun _ => agrees_changes hc hst (ordinary_uniqueIndexes _ _)
  | tableList =>
    exact Agrees.forget (.get (fun s t h => by rw [h.dialect_eq]) fun s =>
      agrees_reading hc hst (ordinary_tableList _) _)
  | tableColumns table =>
    exact Agrees.forget (.get (fun s t h => by rw [h.dialect_eq]) fun s =>
      agrees_reading hc hst (ordinary_tableColumns _ _) _)
  | tableConstraints table =>
    exact Agrees.forget (.get (fun s t h => by rw [h.dialect_eq]) fun s =>
      agrees_reading hc hst (ordinary_tableConstraints _ _) _)
  | renameTable old new =>
    exact Agrees.forget ((agrees_report _ _).bind fun _ =>
      agrees_change hc hst (ordinary_renameTable _ _))
  | addColumn table col =>
    refine Agrees.forget (S := Alike durable standing steady)
      (.get (fun s t h => by rw [h.dialect_eq]) fun s =>
        (agrees_report _ _).bind fun _ => .lift_bind fun sql _ =>
          (agrees_change hc hst (ordinary_addColumn _ _)).bind fun _ => ?_)
    split
    · exact agrees_change hc hst (ordinary_createUniqueIndex _ _)
    · exact .pure ()
  | dropColumn table column =>
    exact Agrees.forget ((agrees_report _ _).bind fun _ =>
      agrees_change hc hst (ordinary_dropColumn _ _))
  | dropTable table =>
    exact Agrees.forget ((agrees_report _ _).bind fun _ =>
      agrees_change hc hst (ordinary_dropTable _))

end Task

/-- After tasks of which no statement failed, whatever else did, a task answers what it answers in a
session just connected for which the same lasts. After one that failed, no task that is right and
has something to do is answered, and none changes what lasts. None rolls back, before or after. -/
theorem independent_of_tasks {c : Connection σ} {durable : σ → δ} {standing : σ → Standing δ}
    {effect : Call → δ → δ} {d : Dialect} {steady : σ → Prop}
    (hc : Aborting c durable standing effect d) (hst : Steady c standing steady) {link : σ}
    (hlink : standing link = .idle) (ts : List Task) :
    let ops := .connect :: Task.operations d ts
    let s := runAll c ops (fresh d link)
    let sent := wire c ops (fresh d link)
    (¬ Spoiled sent → steady s.link →
      ∀ other, standing other = .idle → durable other = durable s.link → steady other →
        ∀ t : Task, (t.perform c d s).1 = (t.perform c d (connect (fresh d other)).2).1) ∧
      (Spoiled sent → ∀ t : Task, t ≠ .insert [] → (∀ e, ¬ t.Fault d e) →
        ∃ e, (t.perform c d s).1 = .error e ∧ e.kind = .database ∧
          durable (t.perform c d s).2.link = durable s.link) ∧
      ∀ t : Task, ∀ e ∈ sent ++ (Operation.act (t.action d)).sends c s,
        e.signal.call.sql ≠ "ROLLBACK" := by
  intro ops s sent
  have hsettled : Settled durable standing sent s := settled_of_tasks hc hlink ts
  have hdialect : s.dialect = d := dialect_runAll c ops (fresh d link)
  have hwire : ∀ e ∈ sent, e.signal.call.sql ≠ "ROLLBACK" := fun e he =>
    sql_ne_rollback_of_tasks (s := (connect (fresh d link)).2) he
  clear_value s sent
  refine ⟨fun hsent hsteady other hidle hdurable hother t => ?_, fun hsent t hne hfault => ?_,
    fun t => List.forall_mem_append.2 ⟨hwire, fun e => Task.sql_ne_rollback⟩⟩
  · obtain ⟨_, hs⟩ := hsettled.resolve_right fun h => hsent h.1
    have hfresh : Poised durable standing (connect (fresh d other)).2 :=
      ⟨rfl, fun _ => hidle, fun h => by cases h⟩
    exact (t.agrees hc hst ⟨hdialect, hdurable.symm, hs, hfresh, hsteady, hother⟩).1
  · obtain ⟨_, hs⟩ := hsettled.resolve_left fun h => h.1 hsent
    rcases Task.requests_cases d t with ⟨rfl, _⟩ | ⟨e, hlead⟩ | ⟨⟨call, hlead⟩, _⟩
    · contradiction
    · exact absurd (Task.fault_of_lead hlead) (hfault e)
    · obtain ⟨e, herror, he, hdurable⟩ := hs.refused hc (t.committing d) hlead
      subst hdialect
      refine ⟨e, Task.error_of_perform.2 (t.run_of_error c herror), he, ?_⟩
      rw [Task.state_perform, Action.state_run]
      exact hdurable

end RecordMapper
