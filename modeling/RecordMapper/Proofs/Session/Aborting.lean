import RecordMapper.Proofs.Builder.Refusal
import RecordMapper.Proofs.Session.Wire

namespace RecordMapper

open Session Request Sql

/-- How a connection stands with its transaction: none is open, one is and sees changed data, or one
is that nothing but its end gets out of. -/
inductive Standing (δ : Type)
  | idle
  | opened (w : δ)
  | aborted

inductive Looks (d : Dialect) : String → Prop
  | select {sql table : String} {columns : List String} {f : Filter} {limit? : Option Nat} :
      Command.read? sql = some (.select table columns f limit?) → Looks d sql
  | tableList : Looks d (Catalog.tableList d)
  | tableColumns (table : String) : Looks d (Catalog.tableColumns d table)
  | tableConstraints (table : String) : Looks d (Catalog.tableConstraints d table)

theorem Looks.ordinary {d : Dialect} {sql : String} (h : Looks d sql) : Ordinary sql := by
  cases h with
  | select hread =>
    intro command hcommand
    cases hread.symm.trans hcommand
    rfl
  | tableList => exact ordinary_tableList d
  | tableColumns table => exact ordinary_tableColumns d table
  | tableConstraints table => exact ordinary_tableConstraints d table

/-- A connection with transactions, in which everything fails after a statement that failed until
the transaction ends. A transaction ends when it is committed, whether that succeeds or not. -/
structure Aborting (c : Connection σ) (durable : σ → δ) (standing : σ → Standing δ)
    (effect : Call → δ → δ) (d : Dialect) : Prop where
  begins {l l' : σ} : standing l = .idle → Call.begin.send c l = (.ok (), l') →
    durable l' = durable l ∧ standing l' = .opened (durable l)
  beginFails {l l' : σ} {e : Error} : standing l = .idle → Call.begin.send c l = (.error e, l') →
    standing l' = .idle
  runs {l l' : σ} {call : Call} {w : δ} : Ordinary call.sql → standing l = .opened w →
    call.send c l = (.ok (), l') → durable l' = durable l ∧ standing l' = .opened (effect call w)
  aborts {l l' : σ} {call : Call} {w : δ} {e : Error} : Ordinary call.sql →
    standing l = .opened w → call.send c l = (.error e, l') → standing l' = .aborted
  refuses {l : σ} {call : Call} : Ordinary call.sql → standing l = .aborted →
    ∃ e l', call.send c l = (.error e, l') ∧ e.kind = .database ∧ durable l' = durable l ∧
      standing l' = .aborted
  commits {l l' : σ} {w : δ} : standing l = .opened w → Call.commit.send c l = (.ok (), l') →
    durable l' = w ∧ standing l' = .idle
  commitFails {l l' : σ} {w : δ} {e : Error} : standing l = .opened w →
    Call.commit.send c l = (.error e, l') → standing l' = .idle
  looks {call : Call} (w : δ) : Looks d call.sql → effect call w = w

inductive Committing (d : Dialect) : List Request → Prop
  | nil : Committing d []
  | report {rs : List Request} (level : LogLevel) (text : String) : Committing d rs →
      Committing d (.report level text :: rs)
  | fail (e : Error) (rs : List Request) : Committing d (.fail e :: rs)
  | look {call : Call} {rs : List Request} : Looks d call.sql → Committing d rs →
      Committing d (.statement call :: rs)
  | change {call : Call} {rs : List Request} : Ordinary call.sql → Committing d rs →
      Committing d (.statement call :: .commit :: rs)

namespace Committing

variable {d : Dialect} {rs : List Request}

theorem mistake {error? : Option Error} (h : error? = none → Committing d rs) :
    Committing d (mistake error? ++ rs) := by
  cases error? with
  | none => exact h rfl
  | some e => exact .fail e rs

theorem changes {sqls : List String} (h : ∀ sql ∈ sqls, Ordinary sql) :
    Committing d (sqls.flatMap Request.change) := by
  induction sqls with
  | nil => exact .nil
  | cons sql sqls ih =>
    obtain ⟨hsql, hrest⟩ := List.forall_mem_cons.1 h
    exact .change hsql (ih hrest)

end Committing

theorem looks_ofCalls {d : Dialect} {m : Model α} {calls : List QueryCall}
    (h : (Query.ofCalls d m calls).conditions.error = none) (limit? : Option Nat) :
    Looks d ({ Query.ofCalls d m calls with limit? } : Query α).toSql := by
  obtain ⟨f, hproper, _, hspells, hnil⟩ := (Query.say_ofCalls h).conditions.alternatives
  exact .select ((spells_select _ _ hspells hnil limit?).command (select_read _ _ hproper limit?))

theorem Task.committing (d : Dialect) (t : Task) : Committing d (t.requests d) := by
  cases t with
  | first m calls => exact .mistake fun h => .look (looks_ofCalls h _) .nil
  | all m calls => exact .mistake fun h => .look (looks_ofCalls h _) .nil
  | insert xs =>
    refine .mistake fun _ => ?_
    cases hsql : (Insert.ofItems d xs).toSql with
    | error e => exact .fail e []
    | ok sql? =>
      cases sql? with
      | none => exact .nil
      | some sql => exact .change (ordinary_toSql hsql) .nil
  | update s calls =>
    rw [requests, action, Action.requests, List.append_assoc]
    refine .mistake fun _ => ?_
    split
    · exact .fail _ _
    · exact .change (ordinary_update _ _ _) .nil
  | delete s calls => exact .mistake fun _ => .change (ordinary_delete _ _) .nil
  | createTable s =>
    rw [requests, action, Action.requests]
    cases hsql : Migration.createTableSql d s with
    | error e => exact .fail e []
    | ok sql =>
      exact .change (ordinary_createTableSql hsql)
        (.report _ _ (.changes (ordinary_uniqueIndexes d s)))
  | tableList => exact .look .tableList .nil
  | tableColumns table => exact .look (.tableColumns table) .nil
  | tableConstraints table => exact .look (.tableConstraints table) .nil
  | renameTable old new => exact .report _ _ (.change (ordinary_renameTable _ _) .nil)
  | addColumn table col =>
    rw [requests, action, Action.requests]
    refine .report _ _ ?_
    cases col.sql d with
    | error e => exact .fail e []
    | ok sql =>
      refine .change (ordinary_addColumn _ _) ?_
      split
      · exact .change (ordinary_createUniqueIndex _ _) .nil
      · exact .nil
  | dropColumn table column => exact .report _ _ (.change (ordinary_dropColumn _ _) .nil)
  | dropTable table => exact .report _ _ (.change (ordinary_dropTable _) .nil)

def Task.operations (d : Dialect) (ts : List Task) : List Operation :=
  ts.map fun t => .act (t.action d)

theorem Task.sql_ne_rollback {c : Connection σ} {d : Dialect} {t : Task} {s : Session σ} {e : Sent}
    (he : e ∈ (Operation.act (t.action d)).sends c s) : e.signal.call.sql ≠ "ROLLBACK" := by
  rcases mem_sentToMeetAll he with hbegin | hcommit | ⟨call, hcall, hmem⟩
  · rw [hbegin]
    decide
  · rw [hcommit]
    decide
  · have hordinary : Ordinary call.sql :=
      Action.ordinary_requests (by cases t <;> trivial) s.dialect _ hmem
    rw [hcall]
    rintro (hrollback : call.sql = "ROLLBACK")
    exact hordinary.not_mem (by simp [hrollback])

theorem sql_ne_rollback_of_tasks {c : Connection σ} {d : Dialect} {ts : List Task}
    {s : Session σ} {e : Sent} (he : e ∈ wire c (Task.operations d ts) s) :
    e.signal.call.sql ≠ "ROLLBACK" := by
  induction ts generalizing s with
  | nil => contradiction
  | cons t ts ih =>
    rcases List.mem_append.1 he with he | he
    · exact Task.sql_ne_rollback he
    · exact ih he

def Sent.spoils (e : Sent) : Bool :=
  match e.signal with
  | .statement _ => e.failed
  | _ => false

def Spoiled (w : List Sent) : Prop := ∃ e ∈ w, e.spoils = true

theorem spoiled_append {w more : List Sent} :
    Spoiled (w ++ more) ↔ Spoiled w ∨ Spoiled more := by
  simp [Spoiled, or_and_right, exists_or]

theorem not_spoiled_nil : ¬ Spoiled [] := by simp [Spoiled]

theorem not_spoiled_begin (c : Connection σ) (s : Session σ) : ¬ Spoiled (sentToBegin c s) := by
  rw [sentToBegin]
  split <;> simp [Spoiled, Signal.to, Sent.spoils]

theorem not_spoiled_commit (c : Connection σ) (s : Session σ) : ¬ Spoiled (sentToCommit c s) := by
  rw [sentToCommit]
  split <;> simp [Spoiled, Signal.to, Sent.spoils]

theorem spoiled_statement {c : Connection σ} {s begun : Session σ} {call : Call}
    (h : beginIfNeeded c s = (.ok (), begun)) :
    Spoiled (sentToState c call s) ↔ failed (call.send c begun.link).1 = true := by
  rw [sentToState, h, spoiled_append, or_iff_right (not_spoiled_begin c s)]
  simp [Spoiled, Signal.to, Sent.spoils, Signal.call]

theorem not_spoiled_unbegun {c : Connection σ} {s t : Session σ} {e : Error} (call : Call)
    (h : beginIfNeeded c s = (.error e, t)) : ¬ Spoiled (sentToState c call s) := by
  rw [sentToState, h, spoiled_append]
  simp [not_spoiled_begin, not_spoiled_nil]

namespace Session

structure Poised (durable : σ → δ) (standing : σ → Standing δ) (s : Session σ) : Prop where
  connected : s.connected = true
  standing_closed : s.inTransaction = false → standing s.link = .idle
  standing_open : s.inTransaction = true → standing s.link = .opened (durable s.link)

structure Within (durable : σ → δ) (standing : σ → Standing δ) (kept w : δ) (s : Session σ) :
    Prop where
  connected : s.connected = true
  inTransaction : s.inTransaction = true
  durable_eq : durable s.link = kept
  standing_eq : standing s.link = .opened w

structure Stuck (standing : σ → Standing δ) (s : Session σ) : Prop where
  connected : s.connected = true
  inTransaction : s.inTransaction = true
  standing_eq : standing s.link = .aborted

variable {c : Connection σ} {durable : σ → δ} {standing : σ → Standing δ}
  {effect : Call → δ → δ} {d : Dialect} {s t : Session σ}

theorem Within.poised {kept : δ} (hs : Within durable standing kept kept s) :
    Poised durable standing s where
  connected := hs.connected
  standing_closed h := absurd hs.inTransaction (by simp [h])
  standing_open _ := by rw [hs.standing_eq, hs.durable_eq]

theorem Poised.begun (hc : Aborting c durable standing effect d)
    (hs : Poised durable standing s) {result : Except Error Unit}
    (h : beginIfNeeded c s = (result, t)) :
    (result = .ok () ∧ Within durable standing (durable s.link) (durable s.link) t) ∨
      (∃ e, result = .error e) ∧ Poised durable standing t := by
  cases begins_of_eq c h with
  | refused hunconnected =>
    rw [hs.connected] at hunconnected
    contradiction
  | already hconnected hopen =>
    exact .inl ⟨rfl, hconnected, hopen, rfl, hs.standing_open hopen⟩
  | began hconnected hclosed hsend =>
    obtain ⟨hdurable, hstanding⟩ := hc.begins (hs.standing_closed hclosed) hsend
    refine .inl ⟨rfl, hconnected, rfl, ?_, ?_⟩
    · simpa [sent, hsend] using hdurable
    · simpa [sent, hsend] using hstanding
  | @failed l e hconnected hclosed hsend =>
    have hstanding := hc.beginFails (hs.standing_closed hclosed) hsend
    refine .inr ⟨⟨e, rfl⟩, hconnected, fun _ => ?_, fun hopen => ?_⟩
    · simpa [sent, hsend] using hstanding
    · cases hclosed.symm.trans hopen

theorem Within.ran (hc : Aborting c durable standing effect d) {kept w : δ}
    (hs : Within durable standing kept w s) {call : Call} (hcall : Ordinary call.sql)
    (h : (call.send c s.link).1 = .ok ()) :
    Within durable standing kept (effect call w) (s.sent c call) := by
  obtain ⟨hdurable, hstanding⟩ := hc.runs hcall hs.standing_eq (Prod.ext h rfl)
  exact ⟨hs.connected, hs.inTransaction, hdurable.trans hs.durable_eq, hstanding⟩

theorem Within.pendingWrites {kept w : δ} (hs : Within durable standing kept w s) (b : Bool) :
    Within durable standing kept w { s with pendingWrites := b } :=
  ⟨hs.connected, hs.inTransaction, hs.durable_eq, hs.standing_eq⟩

theorem Within.failed (hc : Aborting c durable standing effect d) {kept w : δ}
    (hs : Within durable standing kept w s) {call : Call} (hcall : Ordinary call.sql) {e : Error}
    (h : (call.send c s.link).1 = .error e) : Stuck standing (s.sent c call) :=
  ⟨hs.connected, hs.inTransaction, hc.aborts hcall hs.standing_eq (Prod.ext h rfl)⟩

theorem Within.committed (hc : Aborting c durable standing effect d) {kept w : δ}
    (hs : Within durable standing kept w s) :
    Poised durable standing (commit c s).2 ∧
      ((commit c s).1 = .ok () → durable (commit c s).2.link = w) := by
  rw [commit_apply, if_pos hs.inTransaction]
  cases hsend : Call.commit.send c s.link with
  | mk result l =>
    cases result with
    | ok u =>
      obtain ⟨hdurable, hstanding⟩ := hc.commits hs.standing_eq hsend
      refine ⟨⟨hs.connected, fun _ => ?_, fun h => by cases h⟩, fun _ => ?_⟩
      · simpa [sent, hsend] using hstanding
      · simpa [sent, hsend] using hdurable
    | error e =>
      refine ⟨⟨hs.connected, fun _ => ?_, fun h => by cases h⟩, fun h => by cases h⟩
      simpa [sent, hsend] using hc.commitFails hs.standing_eq hsend

theorem Poised.stated (hc : Aborting c durable standing effect d)
    (hs : Poised durable standing s) {call : Call} (hcall : Ordinary call.sql)
    {result : Except Error Unit} (h : statement c call s = (result, t)) :
    (result = .ok () ∧ ¬ Spoiled (sentToState c call s) ∧
        Within durable standing (durable s.link) (effect call (durable s.link)) t) ∨
      (∃ e, result = .error e) ∧
        (¬ Spoiled (sentToState c call s) ∧ Poised durable standing t ∨
          Spoiled (sentToState c call s) ∧ Stuck standing t) := by
  rcases statement_cases c h with ⟨e, hbegin, rfl⟩ | ⟨begun, p, hbegin, rfl, rfl⟩
  · rcases hs.begun hc hbegin with ⟨hok, _⟩ | ⟨_, ht⟩
    · contradiction
    · exact .inr ⟨⟨e, rfl⟩, .inl ⟨not_spoiled_unbegun call hbegin, ht⟩⟩
  · rcases hs.begun hc hbegin with ⟨_, hwithin⟩ | ⟨⟨e, herror⟩, _⟩
    · rw [spoiled_statement hbegin]
      cases hsend : (call.send c begun.link).1 with
      | ok u => exact .inl ⟨rfl, by simp, (hwithin.pendingWrites p).ran hc hcall hsend⟩
      | error e =>
        exact .inr ⟨⟨e, rfl⟩, .inr ⟨by simp, (hwithin.pendingWrites p).failed hc hcall hsend⟩⟩
    · contradiction

theorem Stuck.stated (hc : Aborting c durable standing effect d) (hs : Stuck standing s)
    {call : Call} (hcall : Ordinary call.sql) :
    ∃ e t, statement c call s = (.error e, t) ∧ e.kind = .database ∧ Stuck standing t ∧
      durable t.link = durable s.link := by
  obtain ⟨e, l, hsend, he, hdurable, hstanding⟩ := hc.refuses hcall hs.standing_eq
  have hbegin : beginIfNeeded c s = (.ok (), s) := by
    rw [beginIfNeeded_apply, if_neg (by simp [hs.connected]), if_pos hs.inTransaction]
  rw [statement_apply, hbegin]
  simp only [sent, hsend]
  exact ⟨e, _, rfl, he, ⟨hs.connected, hs.inTransaction, hstanding⟩, hdurable⟩

/-- How a connected session stands after what it sent. -/
def Settled (durable : σ → δ) (standing : σ → Standing δ) (w : List Sent) (s : Session σ) : Prop :=
  ¬ Spoiled w ∧ Poised durable standing s ∨ Spoiled w ∧ Stuck standing s

theorem Settled.logged {w : List Sent} (hs : Settled durable standing w s) (level : LogLevel)
    (text : String) : Settled durable standing w (s.logged level text) := by
  rcases hs with ⟨hw, hs⟩ | ⟨hw, hs⟩
  · exact .inl ⟨hw, hs.connected, hs.standing_closed, hs.standing_open⟩
  · exact .inr ⟨hw, hs.connected, hs.inTransaction, hs.standing_eq⟩

theorem Settled.stated (hc : Aborting c durable standing effect d) {w : List Sent}
    (hs : Settled durable standing w s) {call : Call} (hcall : Ordinary call.sql)
    {result : Except Error Unit} (h : statement c call s = (result, t)) :
    (result = .ok () ∧ ¬ Spoiled (w ++ sentToState c call s) ∧
        Within durable standing (durable s.link) (effect call (durable s.link)) t) ∨
      (∃ e, result = .error e) ∧ Settled durable standing (w ++ sentToState c call s) t := by
  rcases hs with ⟨hw, hs⟩ | ⟨hw, hs⟩
  · rw [Settled, spoiled_append, or_iff_right hw]
    rcases hs.stated hc hcall h with ⟨rfl, hsent, ht⟩ | ⟨herror, ht⟩
    · exact .inl ⟨rfl, hsent, ht⟩
    · exact .inr ⟨herror, ht⟩
  · obtain ⟨e, u, hu, _, hstuck, _⟩ := hs.stated hc hcall
    cases h.symm.trans hu
    exact .inr ⟨⟨e, rfl⟩, .inr ⟨spoiled_append.2 (.inl hw), hstuck⟩⟩

theorem Settled.meetAll (hc : Aborting c durable standing effect d) {rs : List Request}
    (hrs : Committing d rs) {w : List Sent} (hs : Settled durable standing w s) :
    Settled durable standing (w ++ sentToMeetAll c rs s) (meetAll c rs s).2 := by
  -- `w` grows by what each request sends: a failure in it, however old, tells how `s` stands
  induction hrs generalizing w s with
  | nil => simpa [sentToMeetAll, Session.meetAll] using hs
  | report level text _ ih => exact ih (hs.logged level text)
  | fail e rs =>
    have hsent : sentToMeetAll c (.fail e :: rs) s = [] := rfl
    rw [hsent, List.append_nil]
    exact hs
  | @look call rs hlooks _ ih =>
    rw [sentToMeetAll, Session.meetAll, bind_apply, meet, sentToMeet, ← List.append_assoc]
    cases hresult : statement c call s with
    | mk result t =>
      rcases hs.stated hc hlooks.ordinary hresult with ⟨rfl, hsent, ht⟩ | ⟨⟨e, rfl⟩, ht⟩
      · rw [hc.looks _ hlooks] at ht
        exact ih (.inl ⟨hsent, ht.poised⟩)
      · simpa using ht
  | @change call rs hcall _ ih =>
    rw [sentToMeetAll, Session.meetAll, bind_apply, meet, sentToMeet, ← List.append_assoc]
    cases hresult : statement c call s with
    | mk result t =>
      rcases hs.stated hc hcall hresult with ⟨rfl, hsent, ht⟩ | ⟨⟨e, rfl⟩, ht⟩
      · simp only [sentToMeetAll, Session.meetAll, bind_apply, meet, sentToMeet]
        rw [← List.append_assoc]
        have hcommitted : Settled durable standing
            (w ++ sentToState c call s ++ sentToCommit c t) (commit c t).2 := by
          refine .inl ⟨?_, (ht.committed hc).1⟩
          rw [spoiled_append]
          exact not_or.2 ⟨hsent, not_spoiled_commit c t⟩
        cases hcommit : commit c t with
        | mk result u =>
          rw [hcommit] at hcommitted
          cases result with
          | ok _ => exact ih hcommitted
          | error e => simpa using hcommitted
      · simpa using ht

theorem Stuck.refused_statement (hc : Aborting c durable standing effect d)
    (hs : Stuck standing s) {call : Call} (hcall : Ordinary call.sql) (rs : List Request) :
    ∃ e, (Session.meetAll c (.statement call :: rs) s).1 = .error e ∧ e.kind = .database ∧
      durable (Session.meetAll c (.statement call :: rs) s).2.link = durable s.link := by
  obtain ⟨e, t, ht, he, _, hdurable⟩ := hs.stated hc hcall
  rw [Session.meetAll, bind_apply, meet, ht]
  exact ⟨e, rfl, he, hdurable⟩

theorem Stuck.refused (hc : Aborting c durable standing effect d) {rs : List Request}
    (hrs : Committing d rs) (hs : Stuck standing s) {call : Call}
    (hlead : lead? rs = some (.statement call)) :
    ∃ e, (Session.meetAll c rs s).1 = .error e ∧ e.kind = .database ∧
      durable (Session.meetAll c rs s).2.link = durable s.link := by
  induction hrs generalizing s with
  | nil => contradiction
  | @report rs level text _ ih =>
    have hlogged : Stuck standing (s.logged level text) :=
      ⟨hs.connected, hs.inTransaction, hs.standing_eq⟩
    exact ih hlogged hlead
  | fail e rs => cases hlead
  | look hlooks _ _ => exact hs.refused_statement hc hlooks.ordinary _
  | change hcall _ _ => exact hs.refused_statement hc hcall _

theorem Settled.runAll (hc : Aborting c durable standing effect d) (ts : List Task) {w : List Sent}
    (hs : Settled durable standing w s) (hd : s.dialect = d) :
    Settled durable standing (w ++ wire c (Task.operations d ts) s)
      (Session.runAll c (Task.operations d ts) s) := by
  induction ts generalizing w s with
  | nil => simpa [Task.operations, wire, Session.runAll] using hs
  | cons t ts ih =>
    subst hd
    have hnext := hs.meetAll hc (t.committing s.dialect)
    rw [Task.requests, ← (t.action s.dialect).state_run c] at hnext
    have hrest := ih hnext (dialect_runAll c [.act (t.action s.dialect)] s)
    rw [List.append_assoc] at hrest
    exact hrest

theorem settled_of_tasks (hc : Aborting c durable standing effect d) {link : σ}
    (hlink : standing link = .idle) (ts : List Task) :
    Settled durable standing (wire c (.connect :: Task.operations d ts) (fresh d link))
      (Session.runAll c (.connect :: Task.operations d ts) (fresh d link)) := by
  refine Settled.runAll hc ts (w := []) (.inl ⟨not_spoiled_nil, rfl, fun _ => hlink, nofun⟩) ?_
  rfl

end Session

end RecordMapper
