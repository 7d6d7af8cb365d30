import RecordMapper.Proofs.Migration.Changes

/-!
A table created with all of its columns, and one that got some of them later.
Main statement: both ways send the same column definitions in the same order and the same indexes,
each change in a transaction of its own.
-/

namespace RecordMapper

open Sql

def Connection.Answers (c : Connection σ) (good : σ → Prop) : Prop :=
  ∀ (call : Call) (l : σ), good l → ∃ l', call.send c l = (.ok (), l') ∧ good l'

theorem Sends.all {c : Connection σ} {good : σ → Prop} (hc : c.Answers good) {l l' : σ}
    {xs sent : List Call} {outcome : Except Error Unit} (h : Sends c l xs sent outcome l')
    (hl : good l) : sent = xs ∧ outcome = .ok () := by
  induction h with
  | done => exact ⟨rfl, rfl⟩
  | failed rest hsend =>
    obtain ⟨_, hok, _⟩ := hc _ _ hl
    cases hsend.symm.trans hok
  | succeeded hsend _ ih =>
    obtain ⟨_, hok, hnext⟩ := hc _ _ hl
    cases hsend.symm.trans hok
    obtain ⟨rfl, houtcome⟩ := ih hnext
    exact ⟨rfl, houtcome⟩

namespace Migration

/-- Whether a session that takes steps makes changes of tables: it sends their statements, each in a
transaction of its own, and no transaction is open when it is done. -/
structure Makes (c : Connection σ) (s : Session (σ × List Call)) (steps : List Step)
    (changes : List TableChange) : Prop where
  succeeds : (Step.runAll c.traced steps s).1 = .ok ()
  closed : (Step.runAll c.traced steps s).2.inTransaction = false
  sends : (Step.runAll c.traced steps s).2.link.2 =
    s.link.2 ++ Call.changes s.inTransaction (changes.map TableChange.sql)

theorem makes_of_plan {c : Connection σ} {good : σ → Prop} (hc : c.Answers good)
    {s : Session (σ × List Call)} (hs : s.connected = true) (hgood : good s.link.1)
    {steps : List Step} (hsteps : steps ≠ []) {changes : List TableChange}
    (hplan : Step.plan s.dialect steps = (changes.map TableChange.sql, .ok ())) :
    Makes c s steps changes := by
  have hperforms := Step.performs_runAll c.traced hs steps
  have hne := Step.ne_nil_of_plan (congrArg Prod.snd hplan) hsteps
  rw [hplan] at hperforms hne
  obtain ⟨sent, hsends⟩ := hperforms.sends_ok
  obtain ⟨hsends, htrace⟩ := hsends.of_traced
  obtain ⟨rfl, hok⟩ := hsends.all hc hgood
  refine ⟨hok, ?_, htrace⟩
  rw [hperforms.inTransaction hok, List.isEmpty_eq_false_iff.2 hne, Bool.and_false]

def stages (s : Schema) (k : Nat) (foreignKeys : List ForeignKey) : List Step :=
  .createTable { s with columns := s.columns.take k, foreignKeys } ::
    (s.columns.drop k).map (.addColumn s.table)

theorem defines_stages {d : Dialect} {s : Schema} {texts : List String}
    (h : List.Forall₂ (fun col text => Column.sql d col = .ok text) s.columns texts) (k : Nat)
    (foreignKeys : List ForeignKey) :
    List.Forall₂ (Step.Defines d) (stages s k foreignKeys)
      (texts.take k :: (texts.drop k).map fun text => [text]) := by
  refine .cons (.createTable (List.forall₂_take k h)) ?_
  rw [List.forall₂_map_left_iff, List.forall₂_map_right_iff]
  exact (List.forall₂_drop k h).imp fun _ _ => .addColumn

theorem marks_stages {d : Dialect} {s : Schema} {k : Nat}
    (hkeys : ∀ col ∈ s.columns.drop k, col.isPrimaryKey = false) (foreignKeys : List ForeignKey) :
    (stages s k foreignKeys).flatMap (Step.marks d) = (Step.createTable s).marks d := by
  have hlater (columns : List Column) :
      (columns.map (Step.addColumn s.table)).flatMap (Step.marks d) = marked d s.table columns := by
    induction columns with
    | nil => rfl
    | cons col columns ih =>
      rw [List.map_cons, List.flatMap_cons, ih]
      exact (marked_append d s.table [col] columns).symm
  have hplain : (s.columns.drop k).filter (fun col => !col.isPrimaryKey) = s.columns.drop k :=
    List.filter_eq_self.2 fun col hcol => by simp [hkeys col hcol]
  calc
    (stages s k foreignKeys).flatMap (Step.marks d)
      = marked d s.table ((s.columns.take k).filter fun col => !col.isPrimaryKey) ++
          marked d s.table ((s.columns.drop k).filter fun col => !col.isPrimaryKey) := by
        rw [hplain, stages, List.flatMap_cons, hlater]
        rfl
    _ = (Step.createTable s).marks d := by
        rw [← marked_append, ← List.filter_append, List.take_append_drop]
        rfl

end Migration

open Migration

/-- A table that is created with its first columns and then gets the others one by one comes to the
same as one that is created at once: over connections where no call fails, both ways send the same
column definitions in the same order and the same indexes, and are read so, each change in a
transaction of its own, if none of the columns added is a key. -/
theorem grown_as_created {c : Connection σ} {c' : Connection τ} {good : σ → Prop}
    {good' : τ → Prop} (hc : c.Answers good) (hc' : c'.Answers good')
    {s : Session (σ × List Call)} {s' : Session (τ × List Call)} (hs : s.connected = true)
    (hs' : s'.connected = true) (hgood : good s.link.1) (hgood' : good' s'.link.1)
    (hdialect : s'.dialect = s.dialect) {schema : Schema}
    (hsql : ∀ col ∈ schema.columns, ∃ text, col.sql s.dialect = .ok text) (k : Nat)
    (hkeys : ∀ col ∈ schema.columns.drop k, col.isPrimaryKey = false)
    (foreignKeys : List ForeignKey) :
    ∃ texts columns created grown,
      List.Forall₂ (fun col text => Column.sql s.dialect col = .ok text) schema.columns texts ∧
      List.Forall₂ (Column.Says s.dialect) schema.columns columns ∧
      Makes c s [.createTable schema] created ∧
      Makes c' s' (stages schema k foreignKeys) grown ∧
      created.flatMap TableChange.definitions = texts ∧
      grown.flatMap TableChange.definitions = texts ∧
      grown.flatMap TableChange.indexed = created.flatMap TableChange.indexed ∧
      ∃ commands commands',
        List.Forall₂ (fun sql command => Command.read? sql = some command)
          (created.map TableChange.sql) commands ∧
        List.Forall₂ (fun sql command => Command.read? sql = some command)
          (grown.map TableChange.sql) commands' ∧
        commands.flatMap Command.defined = columns ∧
        commands'.flatMap Command.defined = columns ∧
        commands'.flatMap Command.indexed = commands.flatMap Command.indexed := by
  obtain ⟨texts, htexts⟩ := exists_texts hsql
  obtain ⟨columns, hsays, hdescribes⟩ := exists_columns htexts
  obtain ⟨created, hcreated, hatOnce⟩ :=
    Step.exists_changes (.cons (.createTable htexts) .nil)
  obtain ⟨grown, hgrown, hinStages⟩ := Step.exists_changes (defines_stages htexts k foreignKeys)
  have hflatten : (texts.take k :: (texts.drop k).map fun text => [text]).flatten = texts := by
    rw [List.flatten_cons, ← List.flatMap_def, List.flatMap_singleton', List.take_append_drop]
  have hcreatedTexts := hatOnce.definitions.trans (List.flatten_singleton ..)
  have hgrownTexts := hinStages.definitions.trans hflatten
  have hindexed : grown.flatMap TableChange.indexed = created.flatMap TableChange.indexed := by
    rw [hinStages.indexed, hatOnce.indexed, marks_stages hkeys, List.flatMap_singleton]
  obtain ⟨commands, hread, hdefined, hindexes⟩ :=
    TableChange.exists_reads (hcreatedTexts ▸ hdescribes)
  obtain ⟨commands', hread', hdefined', hindexes'⟩ :=
    TableChange.exists_reads (hgrownTexts ▸ hdescribes)
  exact ⟨texts, columns, created, grown, htexts, hsays,
    makes_of_plan hc hs hgood (List.cons_ne_nil _ _) hcreated,
    makes_of_plan hc' hs' hgood' (List.cons_ne_nil _ _) (hdialect ▸ hgrown), hcreatedTexts,
    hgrownTexts, hindexed, commands, commands', hread, hread', hdefined, hdefined',
    by rw [hindexes', hindexes, hindexed]⟩

theorem Script.answers :
    Script.connection.Answers fun l => l.failing = [] ∧ l.replies = [] := by
  rintro ⟨kind, sql⟩ ⟨failing, replies⟩ ⟨rfl, rfl⟩
  refine ⟨{}, ?_, rfl, rfl⟩
  cases kind <;> by_cases hsql : isTransactional sql = true <;>
    simp [Call.send, connection, run, reply, hsql, Except.map]

namespace Sample

theorem members_worded : ∀ col ∈ members.columns, ∃ text, col.sql .sqlite = .ok text := by
  simp only [members, List.forall_mem_cons, List.not_mem_nil, false_implies, implies_true, and_true]
  exact ⟨⟨_, rfl⟩, ⟨_, rfl⟩, ⟨_, rfl⟩⟩

theorem members_grown :
    Script.connection.Answers (fun l => l.failing = [] ∧ l.replies = []) ∧
    midway.connected = true ∧ midway.link.1.failing = [] ∧ midway.link.1.replies = [] ∧
    (∀ col ∈ members.columns, ∃ text, col.sql .sqlite = .ok text) ∧
    (∀ col ∈ members.columns.drop 1, col.isPrimaryKey = false) ∧
    ∃ created grown,
      Makes Script.connection midway [.createTable members] created ∧
      Makes Script.connection midway (stages members 1 []) grown ∧
      grown.flatMap TableChange.definitions = [
        "\"id\" INTEGER PRIMARY KEY", "\"email\" TEXT NOT NULL", "\"nick\" TEXT"] ∧
      grown.flatMap TableChange.indexed = created.flatMap TableChange.indexed ∧
      ∃ commands, List.Forall₂ (fun sql command => Command.read? sql = some command)
        (grown.map TableChange.sql) commands ∧
        (commands.flatMap Command.defined).map ColumnDefinition.name = ["id", "email", "nick"] := by
  have hkeys : ∀ col ∈ members.columns.drop 1, col.isPrimaryKey = false := by decide
  refine ⟨Script.answers, rfl, rfl, rfl, members_worded, hkeys, ?_⟩
  obtain ⟨texts, columns, created, grown, htexts, hsays, hcreated, hgrown, -, hdefinitions,
    hindexed, _, commands, -, hread, -, hdefined, -⟩ :=
    grown_as_created Script.answers Script.answers (rfl : midway.connected = true)
      (rfl : midway.connected = true) ⟨rfl, rfl⟩ ⟨rfl, rfl⟩ rfl members_worded 1 hkeys []
  refine ⟨created, grown, hcreated, hgrown, hdefinitions.trans ?_, hindexed, commands, hread, ?_⟩
  · exact Except.ok.inj ((mapM_of_forall₂ htexts).symm.trans (by decide +kernel))
  · rw [hdefined, Column.names_of_says hsays]
    rfl

end Sample

end RecordMapper
