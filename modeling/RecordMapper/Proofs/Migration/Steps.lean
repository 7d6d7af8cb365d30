import RecordMapper.Connection.Scripted
import RecordMapper.Proofs.Except
import RecordMapper.Proofs.Migration.Definitions
import RecordMapper.Proofs.Session.Unsent

/-!
Changes of the tables, one step after another.
Main statement: a chain of steps sends its statements each in a transaction of its own, up to the
first call that fails.
-/

namespace RecordMapper

open Session Sql

/-- How calls go that are sent one after another, up to the first that fails: which were sent, what
came of them, and the state that they leave. -/
inductive Sends (c : Connection σ) : σ → List Call → List Call → Except Error Unit → σ → Prop
  | done (l : σ) : Sends c l [] [] (.ok ()) l
  | failed {l l' : σ} {call : Call} {e : Error} (rest : List Call) :
      call.send c l = (.error e, l') → Sends c l (call :: rest) [call] (.error e) l'
  | succeeded {l l' l'' : σ} {call : Call} {rest sent : List Call} {outcome : Except Error Unit} :
      call.send c l = (.ok (), l') → Sends c l' rest sent outcome l'' →
      Sends c l (call :: rest) (call :: sent) outcome l''

namespace Sends

variable {c : Connection σ} {l l' l'' : σ} {xs ys sent more : List Call}
  {outcome : Except Error Unit}

theorem append (h : Sends c l xs sent (.ok ()) l') (hmore : Sends c l' ys more outcome l'') :
    Sends c l (xs ++ ys) (sent ++ more) outcome l'' := by
  generalize hok : (Except.ok () : Except Error Unit) = result at h
  induction h with
  | done => exact hmore
  | failed => contradiction
  | succeeded hsend _ ih => exact .succeeded hsend (ih hmore hok)

theorem append_of_error {e : Error} (h : Sends c l xs sent (.error e) l') (ys : List Call) :
    Sends c l (xs ++ ys) sent (.error e) l' := by
  generalize herror : (Except.error e : Except Error Unit) = result at h
  induction h with
  | done => contradiction
  | failed rest hsend => exact .failed (rest ++ ys) hsend
  | succeeded hsend _ ih => exact .succeeded hsend (ih herror)

theorem one (c : Connection σ) (call : Call) (l : σ) :
    Sends c l [call] [call] (call.send c l).1 (call.send c l).2 := by
  cases hsend : call.send c l with
  | mk answer l' =>
    cases answer with
    | error e => exact .failed [] hsend
    | ok u => exact .succeeded hsend (.done l')

theorem mem (h : Sends c l xs sent outcome l') {call : Call} (hcall : call ∈ sent) : call ∈ xs := by
  induction h with
  | done => contradiction
  | failed rest _ =>
    obtain rfl := List.mem_singleton.1 hcall
    exact List.mem_cons_self ..
  | succeeded _ _ ih =>
    rcases List.mem_cons.1 hcall with rfl | hcall
    · exact List.mem_cons_self ..
    · exact List.mem_cons_of_mem _ (ih hcall)

theorem cons_ok {call : Call} {rest : List Call} (h : Sends c l (call :: rest) sent (.ok ()) l'') :
    ∃ l' sent', call.send c l = (.ok (), l') ∧ Sends c l' rest sent' (.ok ()) l'' := by
  cases h with
  | succeeded hsend hrest => exact ⟨_, _, hsend, hrest⟩

theorem of_traced {l l' : σ × List Call} (h : Sends c.traced l xs sent outcome l') :
    Sends c l.1 xs sent outcome l'.1 ∧ l'.2 = l.2 ++ sent := by
  induction h with
  | done l => exact ⟨.done l.1, (List.append_nil l.2).symm⟩
  | @failed l l' call e rest hsend =>
    rw [send_traced] at hsend
    obtain ⟨hanswer, rfl⟩ := Prod.mk.inj hsend
    exact ⟨.failed rest (Prod.ext hanswer rfl), rfl⟩
  | @succeeded l l' l'' call rest sent outcome hsend _ ih =>
    rw [send_traced] at hsend
    obtain ⟨hanswer, rfl⟩ := Prod.mk.inj hsend
    obtain ⟨hsends, htrace⟩ := ih
    exact ⟨.succeeded (Prod.ext hanswer rfl) hsends, by simp [htrace]⟩

end Sends

def Call.changes : (inTransaction : Bool) → List String → List Call
  | _, [] => []
  | inTransaction, sql :: sqls =>
    (if inTransaction then [] else [begin]) ++ ⟨.execute, sql⟩ :: commit :: changes false sqls

theorem Call.changes_false_append (sqls more : List String) :
    changes false (sqls ++ more) = changes false sqls ++ changes false more := by
  induction sqls with
  | nil => rfl
  | cons sql sqls ih => simp [changes, ih]

theorem Call.changes_append {sqls : List String} (h : sqls ≠ []) (inTransaction : Bool)
    (more : List String) :
    changes inTransaction (sqls ++ more) = changes inTransaction sqls ++ changes false more := by
  obtain ⟨sql, sqls, rfl⟩ := List.exists_cons_of_ne_nil h
  simp [changes, changes_false_append]

theorem Call.changes_cons (inTransaction : Bool) (sql : String) (sqls : List String) :
    changes inTransaction (sql :: sqls) = changes inTransaction [sql] ++ changes false sqls :=
  changes_append (List.cons_ne_nil sql []) inTransaction sqls

/-- What work at a session comes to: the calls that it sends, up to the first that fails, what it
fails with if none does, and whether a transaction is open when all went well. -/
structure Performs (c : Connection σ) (calls : List Call) (verdict : Except Error Unit)
    (inTransaction : Bool) (s : Session σ) (r : Except Error Unit × Session σ) : Prop where
  sends : ∃ sent outcome, Sends c s.link calls sent outcome r.2.link ∧
    r.1 = outcome >>= fun _ => verdict
  connected : r.2.connected = s.connected
  dialect : r.2.dialect = s.dialect
  inTransaction : r.1 = .ok () → r.2.inTransaction = inTransaction

namespace Performs

variable {c : Connection σ} {s : Session σ} {calls more : List Call} {verdict : Except Error Unit}
  {opened opened' : Bool}

theorem sends_ok {r : Except Error Unit × Session σ} (h : Performs c calls (.ok ()) opened s r) :
    ∃ sent, Sends c s.link calls sent r.1 r.2.link := by
  obtain ⟨sent, outcome, hsends, hr⟩ := h.sends
  have houtcome : r.1 = outcome := by
    rw [hr]
    cases outcome <;> rfl
  exact ⟨sent, houtcome ▸ hsends⟩

theorem bind {work : SessionM σ Unit} {next : Unit → SessionM σ Unit}
    (h : Performs c calls (.ok ()) opened s (work s))
    (hnext : ∀ t : Session σ, t.connected = s.connected → t.dialect = s.dialect →
      t.inTransaction = opened → Performs c more verdict opened' t (next () t)) :
    Performs c (calls ++ more) verdict opened' s ((work >>= next) s) := by
  obtain ⟨sent, hsends⟩ := h.sends_ok
  rw [bind_apply]
  cases hwork : work s with
  | mk result t =>
    rw [hwork] at h hsends
    cases result with
    | error e =>
      exact ⟨⟨sent, .error e, hsends.append_of_error more, rfl⟩, h.connected, h.dialect, nofun⟩
    | ok u =>
      have hrest := hnext t h.connected h.dialect (h.inTransaction rfl)
      obtain ⟨sent', outcome, hsends', hresult⟩ := hrest.sends
      exact ⟨⟨sent ++ sent', outcome, hsends.append hsends', hresult⟩,
        hrest.connected.trans h.connected, hrest.dialect.trans h.dialect, hrest.inTransaction⟩

theorem bind_of_error {work : SessionM σ Unit} {e : Error}
    (h : Performs c calls (.error e) opened s (work s)) (next : Unit → SessionM σ Unit) :
    Performs c calls (.error e) opened' s ((work >>= next) s) := by
  obtain ⟨sent, outcome, hsends, hresult⟩ := h.sends
  rw [bind_apply]
  cases hwork : work s with
  | mk result t =>
    rw [hwork] at h hsends hresult
    cases result with
    | error e' => exact ⟨⟨sent, outcome, hsends, hresult⟩, h.connected, h.dialect, nofun⟩
    | ok u => cases outcome <;> cases hresult

theorem of_sends {sent : List Call} {r : Except Error Unit × Session σ}
    (hsends : Sends c s.link calls sent r.1 r.2.link) (hconnected : r.2.connected = s.connected)
    (hdialect : r.2.dialect = s.dialect) (hopened : r.1 = .ok () → r.2.inTransaction = opened) :
    Performs c calls (.ok ()) opened s r := by
  have hresult : r.1 = r.1 >>= fun _ => .ok () := by cases r.1 <;> rfl
  exact ⟨⟨sent, r.1, hsends, hresult⟩, hconnected, hdialect, hopened⟩

theorem of_error {sent : List Call} {e : Error} {t : Session σ}
    (hsends : Sends c s.link calls sent (.error e) t.link) (hconnected : t.connected = s.connected)
    (hdialect : t.dialect = s.dialect) : Performs c calls (.ok ()) opened s (.error e, t) :=
  of_sends hsends hconnected hdialect fun habsurd => nomatch habsurd

theorem pure (c : Connection σ) (s : Session σ) :
    Performs c [] (.ok ()) s.inTransaction s ((Pure.pure () : SessionM σ Unit) s) :=
  of_sends (.done s.link) rfl rfl fun _ => rfl

theorem report (c : Connection σ) (level : LogLevel) (text : String) (s : Session σ) :
    Performs c [] (.ok ()) s.inTransaction s (Session.report level text s) :=
  of_sends (.done s.link) rfl rfl fun _ => rfl

theorem fail (c : Connection σ) (e : Error) (s : Session σ) :
    Performs c [] (.error e) opened s (.error e, s) :=
  ⟨⟨[], .ok (), .done s.link, rfl⟩, rfl, rfl, nofun⟩

theorem beginIfNeeded (hs : s.connected = true) :
    Performs c (if s.inTransaction then [] else [.begin]) (.ok ()) true s
      (Session.beginIfNeeded c s) := by
  cases hbegin : Session.beginIfNeeded c s with
  | mk result t =>
    have hone := Sends.one c .begin s.link
    cases begins_of_eq c hbegin with
    | refused hunconnected =>
      rw [hs] at hunconnected
      contradiction
    | already _ hopen =>
      rw [if_pos hopen]
      exact of_sends (.done s.link) rfl rfl fun _ => hopen
    | began _ hclosed hsend =>
      rw [hsend] at hone
      rw [if_neg (by simp [hclosed])]
      exact of_sends (by simpa [sent, hsend] using hone) rfl rfl fun _ => rfl
    | failed _ hclosed hsend =>
      rw [hsend] at hone
      rw [if_neg (by simp [hclosed])]
      exact of_error (by simpa [sent, hsend] using hone) rfl rfl

theorem statement (hs : s.connected = true) (call : Call) :
    Performs c ((if s.inTransaction then [] else [.begin]) ++ [call]) (.ok ()) true s
      (Session.statement c call s) := by
  have hbegin := beginIfNeeded (c := c) hs
  obtain ⟨sent, hsends⟩ := hbegin.sends_ok
  rw [statement_apply]
  cases hbegun : Session.beginIfNeeded c s with
  | mk result t =>
    rw [hbegun] at hbegin hsends
    cases result with
    | error e => exact of_error (hsends.append_of_error [call]) hbegin.connected hbegin.dialect
    | ok u =>
      exact of_sends (hsends.append (.one c call t.link)) hbegin.connected hbegin.dialect
        fun _ => hbegin.inTransaction rfl

theorem commit (hs : s.inTransaction = true) :
    Performs c [.commit] (.ok ()) false s (Session.commit c s) := by
  rw [commit_apply, if_pos hs]
  exact of_sends (.one c .commit s.link) rfl rfl fun _ => rfl

theorem run (hs : s.connected = true) (sql : String) :
    Performs c (Call.changes s.inTransaction [sql]) (.ok ()) false s (Migration.run c sql s) := by
  have hcalls : Call.changes s.inTransaction [sql] =
      ((if s.inTransaction then [] else [.begin]) ++ [⟨.execute, sql⟩]) ++ [.commit] := by
    simp [Call.changes]
  rw [hcalls]
  exact (statement hs ⟨.execute, sql⟩).bind fun t _ _ hopen => commit hopen

theorem runAll (hs : s.connected = true) (sqls : List String) :
    Performs c (Call.changes s.inTransaction sqls) (.ok ()) (s.inTransaction && sqls.isEmpty) s
      (Migration.runAll c sqls s) := by
  induction sqls generalizing s with
  | nil => simpa [Call.changes, Migration.runAll] using pure c s
  | cons sql sqls ih =>
    rw [Call.changes_cons, List.isEmpty_cons, Bool.and_false]
    refine (run hs sql).bind fun t hconnected _ hclosed => ?_
    simpa [hclosed] using ih (s := t) (hconnected.trans hs)

end Performs

namespace Migration

inductive Step
  | createTable (s : Schema)
  | renameTable (old new : String)
  | addColumn (table : String) (col : Column)
  | dropColumn (table column : String)
  | dropTable (table : String)

namespace Step

def run (c : Connection σ) : Step → SessionM σ Unit
  | createTable s => Migration.createTable c s
  | renameTable old new => Migration.renameTable c old new
  | addColumn table col => Migration.addColumn c table col
  | dropColumn table column => Migration.dropColumn c table column
  | dropTable table => Migration.dropTable c table

def runAll (c : Connection σ) : List Step → SessionM σ Unit
  | [] => pure ()
  | step :: steps => do
    run c step
    runAll c steps

def indexes (d : Dialect) (table : String) (columns : List Column) : List String :=
  (columns.filter fun col => col.unique && !d.inlineUnique).map fun col =>
    Statement.createUniqueIndex table col.name

def statements (d : Dialect) : Step → Except Error (List String)
  | createTable s => do
    let sql ← createTableSql d s
    return sql :: indexes d s.table (s.columns.filter fun col => !col.isPrimaryKey)
  | renameTable old new => return [Statement.renameTable old new]
  | addColumn table col => do
    let sql ← col.sql d
    return Statement.addColumn table sql :: indexes d table [col]
  | dropColumn table column => return [Statement.dropColumn table column]
  | dropTable table => return [Statement.dropTable table]

def plan (d : Dialect) : List Step → List String × Except Error Unit
  | [] => ([], .ok ())
  | step :: steps =>
    match step.statements d with
    | .ok sqls => (sqls ++ (plan d steps).1, (plan d steps).2)
    | .error e => ([], .error e)

def Worded (d : Dialect) : Step → Prop
  | createTable s => ∀ col ∈ s.columns, ∃ sql, col.sql d = .ok sql
  | addColumn _ col => ∃ sql, col.sql d = .ok sql
  | _ => True

theorem ne_nil_of_statements {d : Dialect} {step : Step} {sqls : List String}
    (h : step.statements d = .ok sqls) : sqls ≠ [] := by
  rintro rfl
  cases step with
  | createTable s =>
    obtain ⟨_, _, habsurd⟩ := except_bind_eq_ok h
    cases habsurd
  | addColumn table col =>
    obtain ⟨_, _, habsurd⟩ := except_bind_eq_ok h
    cases habsurd
  | _ => cases h

theorem statements_of_worded {d : Dialect} {step : Step} (h : step.Worded d) :
    ∃ sqls, step.statements d = .ok sqls := by
  cases hsqls : step.statements d with
  | ok sqls => exact ⟨sqls, rfl⟩
  | error e =>
    cases step with
    | createTable s =>
      obtain herror | ⟨_, _, habsurd⟩ := except_bind_eq_error hsqls
      · obtain herror | ⟨_, _, habsurd⟩ := except_bind_eq_error herror
        · obtain ⟨col, hcol, herror⟩ := mapM_eq_error herror
          obtain ⟨sql, hsql⟩ := h col hcol
          rw [hsql] at herror
          contradiction
        · cases habsurd
      · cases habsurd
    | addColumn table col =>
      obtain ⟨sql, hsql⟩ := h
      rw [statements, hsql] at hsqls
      cases hsqls
    | _ => cases hsqls

theorem plan_of_worded {d : Dialect} {steps : List Step} (h : ∀ step ∈ steps, step.Worded d) :
    (plan d steps).2 = .ok () := by
  induction steps with
  | nil => rfl
  | cons step steps ih =>
    obtain ⟨hstep, hrest⟩ := List.forall_mem_cons.1 h
    obtain ⟨sqls, hsqls⟩ := statements_of_worded hstep
    rw [plan, hsqls]
    exact ih hrest

theorem ne_nil_of_plan {d : Dialect} {steps : List Step} (h : (plan d steps).2 = .ok ())
    (hsteps : steps ≠ []) : (plan d steps).1 ≠ [] := by
  obtain ⟨step, steps, rfl⟩ := List.exists_cons_of_ne_nil hsteps
  rw [plan] at h ⊢
  cases hsqls : step.statements d with
  | error e =>
    rw [hsqls] at h
    cases h
  | ok sqls => exact List.append_ne_nil_of_left_ne_nil (ne_nil_of_statements hsqls) _

def indexing (d : Dialect) (table : String) (columns : List Column) : List Command :=
  (columns.filter fun col => col.unique && !d.inlineUnique).map fun col =>
    .createUniqueIndex (table ++ "_" ++ col.name ++ "_idx") table col.name

/-- The commands that a step asks for. -/
inductive Asks (d : Dialect) : Step → List Command → Prop
  | createTable {s : Schema} {columns : List ColumnDefinition} :
      List.Forall₂ (Column.Says d) s.columns columns →
      Asks d (.createTable s)
        (.createTable
            { name := s.table, columns, foreignKeys := s.foreignKeys.map ForeignKey.definition }
            true ::
          indexing d s.table (s.columns.filter fun col => !col.isPrimaryKey))
  | renameTable (old new : String) : Asks d (.renameTable old new) [.renameTable old new]
  | addColumn {table : String} {col : Column} {c : ColumnDefinition} : col.Says d c →
      Asks d (.addColumn table col) (.addColumn table c :: indexing d table [col])
  | dropColumn (table column : String) :
      Asks d (.dropColumn table column) [.dropColumn table column]
  | dropTable (table : String) : Asks d (.dropTable table) [.dropTable table]

/-- The commands of a chain, up to the first step that cannot be worded. -/
inductive AllAsk (d : Dialect) : List Step → List Command → Prop
  | nil : AllAsk d [] []
  | cons {step : Step} {steps : List Step} {commands more : List Command} :
      step.Asks d commands → AllAsk d steps more → AllAsk d (step :: steps) (commands ++ more)
  | unworded {step : Step} (steps : List Step) : ¬ step.Worded d → AllAsk d (step :: steps) []

theorem indexes_read (d : Dialect) (table : String) (columns : List Column) :
    List.Forall₂ (fun sql command => Command.read? sql = some command) (indexes d table columns)
      (indexing d table columns) := by
  rw [indexes, indexing, List.forall₂_map_left_iff, List.forall₂_map_right_iff]
  exact List.forall₂_same.2 fun col _ => read_createUniqueIndex table col.name

theorem statements_read {d : Dialect} {step : Step} {sqls : List String}
    (h : step.statements d = .ok sqls) :
    ∃ commands, step.Asks d commands ∧
      List.Forall₂ (fun sql command => Command.read? sql = some command) sqls commands := by
  cases step with
  | createTable s =>
    obtain ⟨sql, hsql, hreturn⟩ := except_bind_eq_ok h
    obtain ⟨texts, htexts, hcreate⟩ := except_bind_eq_ok hsql
    cases hreturn
    cases hcreate
    obtain ⟨columns, hsays, hdescribes⟩ := exists_columns (forall₂_of_mapM htexts)
    exact ⟨_, .createTable hsays,
      .cons (read_createTable s.table hdescribes s.foreignKeys) (indexes_read d _ _)⟩
  | renameTable old new =>
    cases h
    exact ⟨_, .renameTable old new, .cons (read_renameTable old new) .nil⟩
  | addColumn table col =>
    obtain ⟨text, htext, hreturn⟩ := except_bind_eq_ok h
    cases hreturn
    obtain ⟨c, hsays, hdescribes⟩ := Column.exists_says htext
    exact ⟨_, .addColumn hsays,
      .cons (hdescribes.read_addColumn table) (indexes_read d table [col])⟩
  | dropColumn table column =>
    cases h
    exact ⟨_, .dropColumn table column, .cons (read_dropColumn table column) .nil⟩
  | dropTable table =>
    cases h
    exact ⟨_, .dropTable table, .cons (read_dropTable table) .nil⟩

theorem plan_read (d : Dialect) (steps : List Step) :
    ∃ commands, AllAsk d steps commands ∧
      List.Forall₂ (fun sql command => Command.read? sql = some command) (plan d steps).1
        commands := by
  induction steps with
  | nil => exact ⟨[], .nil, .nil⟩
  | cons step steps ih =>
    rw [plan]
    cases hsqls : step.statements d with
    | error e =>
      refine ⟨[], .unworded steps fun hworded => ?_, .nil⟩
      obtain ⟨_, hok⟩ := statements_of_worded hworded
      cases hok.symm.trans hsqls
    | ok sqls =>
      obtain ⟨commands, hasks, hread⟩ := statements_read hsqls
      obtain ⟨more, hmore, hrest⟩ := ih
      exact ⟨commands ++ more, .cons hasks hmore, List.rel_append hread hrest⟩

variable (c : Connection σ)

theorem performs_createTable {s : Session σ} (hs : s.connected = true) (schema : Schema)
    {sql : String} (hsql : createTableSql s.dialect schema = .ok sql) :
    Performs c (Call.changes s.inTransaction (sql :: indexes s.dialect schema.table
      (schema.columns.filter fun col => !col.isPrimaryKey))) (.ok ()) false s
      (Migration.createTable c schema s) := by
  have hindexes : uniqueIndexes s.dialect schema = indexes s.dialect schema.table
      (schema.columns.filter fun col => !col.isPrimaryKey) := by
    rw [uniqueIndexes, indexes, List.filter_filter]
    cases s.dialect.inlineUnique with
    | true => simp
    | false => simp
  rw [Migration.createTable, get_bind_apply, hsql, liftExcept_ok, pure_bind, ← hindexes,
    Call.changes_cons]
  refine (Performs.run hs sql).bind fun t hconnected hdialect hclosed => ?_
  refine (Performs.report c _ _ t).bind fun u hconnected' _ hclosed' => ?_
  simpa [hclosed, hclosed'] using
    Performs.runAll (c := c) ((hconnected'.trans hconnected).trans hs) _

theorem performs_reported {s : Session σ} (hs : s.connected = true) (text sql : String) :
    Performs c (Call.changes s.inTransaction [sql]) (.ok ()) false s
      ((Session.report .info text >>= fun _ => Migration.run c sql) s) :=
  (Performs.report c .info text s).bind fun _ hconnected _ hopen =>
    hopen ▸ Performs.run (hconnected.trans hs) sql

theorem performs_addColumn {s : Session σ} (hs : s.connected = true) (table : String)
    {col : Column} {sql : String} (hsql : col.sql s.dialect = .ok sql) :
    Performs c (Call.changes s.inTransaction
      (Statement.addColumn table sql :: indexes s.dialect table [col])) (.ok ()) false s
      (Migration.addColumn c table col s) := by
  rw [Migration.addColumn, get_bind_apply, hsql, liftExcept_ok, Call.changes_cons, ← bind_assoc]
  refine (performs_reported c hs _ _).bind fun t hconnected _ hclosed => ?_
  by_cases hunique : (col.unique && !s.dialect.inlineUnique) = true
  · rw [if_pos hunique, indexes, List.filter_singleton, hunique]
    exact hclosed ▸ Performs.run (c := c) (hconnected.trans hs) _
  · rw [if_neg hunique, indexes, List.filter_singleton, Bool.eq_false_iff.2 hunique]
    simpa [hclosed, Call.changes] using Performs.pure c t

theorem performs_run {s : Session σ} (hs : s.connected = true) {step : Step}
    {sqls : List String} (hsqls : step.statements s.dialect = .ok sqls) :
    Performs c (Call.changes s.inTransaction sqls) (.ok ()) false s (step.run c s) := by
  cases step with
  | createTable schema =>
    obtain ⟨sql, hsql, hreturn⟩ := except_bind_eq_ok hsqls
    cases hreturn
    exact performs_createTable c hs schema hsql
  | renameTable old new =>
    cases hsqls
    exact performs_reported c hs _ _
  | addColumn table col =>
    obtain ⟨sql, hsql, hreturn⟩ := except_bind_eq_ok hsqls
    cases hreturn
    exact performs_addColumn c hs table hsql
  | dropColumn table column =>
    cases hsqls
    exact performs_reported c hs _ _
  | dropTable table =>
    cases hsqls
    exact performs_reported c hs _ _

theorem performs_of_error {s : Session σ} {step : Step} {e : Error}
    (herror : step.statements s.dialect = .error e) (opened : Bool) :
    Performs c [] (.error e) opened s (step.run c s) := by
  cases step with
  | createTable schema =>
    obtain hsql | ⟨_, _, habsurd⟩ := except_bind_eq_error herror
    · rw [run, Migration.createTable, get_bind_apply, hsql]
      exact Performs.fail c e s
    · cases habsurd
  | addColumn table col =>
    obtain hsql | ⟨_, _, habsurd⟩ := except_bind_eq_error herror
    · rw [run, Migration.addColumn, get_bind_apply, hsql]
      exact (Performs.report c .info _ s).bind fun t _ _ _ => Performs.fail c e t
    · cases habsurd
  | _ => cases herror

theorem performs_runAll {s : Session σ} (hs : s.connected = true) (steps : List Step) :
    Performs c (Call.changes s.inTransaction (plan s.dialect steps).1) (plan s.dialect steps).2
      (s.inTransaction && (plan s.dialect steps).1.isEmpty) s (runAll c steps s) := by
  -- a step that sends something leaves no transaction open, whatever the steps behind it do
  induction steps generalizing s with
  | nil => simpa [plan, Call.changes, runAll] using Performs.pure c s
  | cons step steps ih =>
    rw [plan, runAll]
    cases hsqls : step.statements s.dialect with
    | error e => exact (performs_of_error c hsqls false).bind_of_error _
    | ok sqls =>
      have hne := ne_nil_of_statements hsqls
      have hmore : (sqls ++ (plan s.dialect steps).1).isEmpty = false :=
        List.isEmpty_eq_false_iff.2 (List.append_ne_nil_of_left_ne_nil hne _)
      simp only [Call.changes_append hne, hmore, Bool.and_false]
      refine (performs_run c hs hsqls).bind fun t hconnected hdialect hclosed => ?_
      simpa [hdialect, hclosed] using ih (s := t) (hconnected.trans hs)

end Step

end Migration

open Migration

/-- A chain of steps sends its statements, which are read as what the steps ask for, each in a
transaction of its own, the first in the session's if one is open, up to the first call that fails.
It succeeds if no call failed, and then nothing is left uncommitted; it fails as that call did, or
else as the wording of a column does. -/
theorem sends_of_steps (c : Connection σ) {s : Session (σ × List Call)} (hs : s.connected = true)
    (steps : List Step) :
    let planned := Step.plan s.dialect steps
    let done := Step.runAll c.traced steps s
    (∃ commands, Step.AllAsk s.dialect steps commands ∧
      List.Forall₂ (fun sql command => Command.read? sql = some command) planned.1 commands) ∧
    (∃ sent outcome,
      Sends c s.link.1 (Call.changes s.inTransaction planned.1) sent outcome done.2.link.1 ∧
      done.2.link.2 = s.link.2 ++ sent ∧ done.1 = outcome >>= fun _ => planned.2) ∧
    (done.1 = .ok () → steps ≠ [] → done.2.inTransaction = false) ∧
    ((∀ step ∈ steps, step.Worded s.dialect) → planned.2 = .ok ()) := by
  intro planned done
  have hperforms := Step.performs_runAll c.traced hs steps
  refine ⟨Step.plan_read s.dialect steps, ?_, fun hok hsteps => ?_, Step.plan_of_worded⟩
  · obtain ⟨sent, outcome, hsends, hresult⟩ := hperforms.sends
    obtain ⟨hsends, htrace⟩ := hsends.of_traced
    exact ⟨sent, outcome, hsends, htrace, hresult⟩
  · have hverdict : (Step.plan s.dialect steps).2 = .ok () := by
      obtain ⟨_, outcome, _, hresult⟩ := hperforms.sends
      obtain ⟨_, _, hverdict⟩ := except_bind_eq_ok (hresult.symm.trans hok)
      exact hverdict
    rw [hperforms.inTransaction hok,
      List.isEmpty_eq_false_iff.2 (Step.ne_nil_of_plan hverdict hsteps), Bool.and_false]

namespace Sample

def members : Schema where
  table := "members"
  columns := [
    { name := "id", type := .primaryKey .plainInteger true, unique := true },
    { name := "email", type := .plainString, unique := true, nullable := false },
    { name := "nick", type := .plainString, unique := true }]

def founding : List Migration.Step := [.createTable members, .dropTable "guests"]

def crowded : Session (Script × List Call) :=
  { midway with link := ({ replies := [.affected 0, .affected 0, .error "locked"] }, []) }

theorem founding_worded : ∀ step ∈ founding, step.Worded .sqlite := by
  simp only [founding, List.forall_mem_cons, List.not_mem_nil, false_implies, implies_true,
    Migration.Step.Worded, members, and_true]
  exact ⟨⟨_, rfl⟩, ⟨_, rfl⟩, ⟨_, rfl⟩⟩

theorem founding_cut :
    crowded.connected = true ∧ (∀ step ∈ founding, step.Worded .sqlite) ∧
    let planned := Step.plan .sqlite founding
    let done := Step.runAll Script.connection.traced founding crowded
    (∃ t, List.Forall₂ (fun sql command => Command.read? sql = some command) planned.1
      [.createTable t true, .createUniqueIndex "members_email_idx" "members" "email",
        .createUniqueIndex "members_nick_idx" "members" "nick", .dropTable "guests"]) ∧
    ∃ sent, Sends Script.connection crowded.link.1 (Call.changes true planned.1) sent
        (.error (.unexpectedData "locked")) done.2.link.1 ∧
      done.2.link.2 = sent ∧ sent.length = 7 ∧ done.1 = .error (.unexpectedData "locked") := by
  obtain ⟨⟨commands, hasks, hread⟩, ⟨sent, outcome, hsends, htrace, hresult⟩, _, hverdict⟩ :=
    sends_of_steps Script.connection (s := crowded) rfl founding
  refine ⟨rfl, founding_worded, ?_, ?_⟩
  · cases hasks with
    | unworded steps hunworded => exact absurd (founding_worded _ (List.mem_cons_self ..)) hunworded
    | cons hcreate hrest =>
      cases hrest with
      | unworded steps hunworded =>
        exact absurd (founding_worded (.dropTable "guests") (by simp [founding])) hunworded
      | cons hdrop hnil =>
        cases hcreate
        cases hdrop
        cases hnil
        exact ⟨_, hread⟩
  have hdone : (Step.runAll Script.connection.traced founding crowded).1 =
    .error (.unexpectedData "locked") := rfl
  have hlength : (Step.runAll Script.connection.traced founding crowded).2.link.2.length = 7 := rfl
  have htrace' : (Step.runAll Script.connection.traced founding crowded).2.link.2 = sent := htrace
  have houtcome : outcome = .error (.unexpectedData "locked") := by
    rw [hdone, hverdict founding_worded] at hresult
    cases outcome with
    | ok u => cases hresult
    | error e =>
      cases hresult
      rfl
  exact ⟨sent, houtcome ▸ hsends, htrace', htrace' ▸ hlength, hdone⟩

end Sample

end RecordMapper
