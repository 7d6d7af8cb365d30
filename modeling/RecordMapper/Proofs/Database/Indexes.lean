import RecordMapper.Proofs.Database.Versions
import RecordMapper.Proofs.Migration.Changes
import RecordMapper.Proofs.Sql.Statements

namespace RecordMapper

namespace Statement

/-- Whether the second column of a table is the first with the border moved to the right: a part of
the column's name, up to an underscore, has become the end of the table's. -/
inductive Shifted : String × String → String × String → Prop
  | intro (table part column : String) :
    Shifted (table, part ++ "_" ++ column) (table ++ "_" ++ part, column)

theorem append_cons_eq_iff {α : Type} {x : α} {as bs cs ds : List α} :
    as ++ x :: bs = cs ++ x :: ds ↔ as = cs ∧ bs = ds ∨
      (∃ part, cs = as ++ x :: part ∧ bs = part ++ x :: ds) ∨
      ∃ part, as = cs ++ x :: part ∧ ds = part ++ x :: bs := by
  constructor
  · intro h
    rcases List.append_eq_append_iff.1 h with ⟨rest, hcs, hbs⟩ | ⟨rest, has, hds⟩
    · cases rest with
      | nil => simp_all
      | cons y part =>
        obtain ⟨rfl, htail⟩ := List.cons.inj hbs
        exact .inr (.inl ⟨part, hcs, htail⟩)
    · cases rest with
      | nil => simp_all
      | cons y part =>
        obtain ⟨rfl, htail⟩ := List.cons.inj hds
        exact .inr (.inr ⟨part, has, htail⟩)
  · rintro (⟨rfl, rfl⟩ | ⟨part, rfl, rfl⟩ | ⟨part, rfl, rfl⟩) <;> simp

theorem shifted_iff {table table' column column' : String} :
    Shifted (table, column) (table', column') ↔ ∃ part : List Char,
      table'.toList = table.toList ++ '_' :: part ∧
        column.toList = part ++ '_' :: column'.toList := by
  constructor
  · rintro ⟨table, part, column⟩
    exact ⟨part.toList, by simp, by simp⟩
  · rintro ⟨part, htable, hcolumn⟩
    have htable : table' = table ++ "_" ++ String.ofList part := String.ext (by simp [htable])
    have hcolumn : column = String.ofList part ++ "_" ++ column' := String.ext (by simp [hcolumn])
    rw [htable, hcolumn]
    exact .intro table (String.ofList part) column'

theorem indexName_eq_iff (p q : String × String) :
    indexName p.1 p.2 = indexName q.1 q.2 ↔ p = q ∨ Shifted p q ∨ Shifted q p := by
  obtain ⟨table, column⟩ := p
  obtain ⟨table', column'⟩ := q
  have hname (table column : String) : (indexName table column).toList =
      (table.toList ++ '_' :: column.toList) ++ "_idx".toList := by simp [indexName]
  rw [← String.toList_inj, hname, hname, List.append_left_inj, append_cons_eq_iff, shifted_iff,
    shifted_iff, String.toList_inj, String.toList_inj, Prod.mk.injEq]

end Statement

namespace Database

open Migration Statement Sql

def SameColumn (p q : String × String) : Prop :=
  sameName p.1 q.1 = true ∧ sameName p.2 q.2 = true

theorem SameColumn.indexName {p q : String × String} (h : SameColumn p q) :
    sameName (indexName p.1 p.2) (indexName q.1 q.2) = true := by
  have htable := sameName_iff.1 h.1
  have hcolumn := sameName_iff.1 h.2
  rw [sameName_iff]
  simp [Statement.indexName, htable, hcolumn]

def Indexed (indexes : List StoredIndex) (p : String × String) : Prop :=
  ∃ i ∈ indexes, SameColumn (i.table, i.column) p

def taken (indexes : List StoredIndex) (name : String) : Bool :=
  indexes.any fun i => sameName i.name name

def addIndex (indexes : List StoredIndex) (p : String × String) : List StoredIndex :=
  if taken indexes (indexName p.1 p.2) then indexes
  else indexes ++ [⟨indexName p.1 p.2, p.1, p.2⟩]

def firstNamed (columns : List (String × String)) (name : String) : Option (String × String) :=
  columns.find? fun q => sameName (indexName q.1 q.2) name

section

variable {indexes : List StoredIndex} {p : String × String}

theorem addIndex_of_taken (h : taken indexes (indexName p.1 p.2) = true) :
    addIndex indexes p = indexes := if_pos h

theorem taken_addIndex (h : taken indexes (indexName p.1 p.2) = false) (name : String) :
    taken (addIndex indexes p) name =
      (taken indexes name || sameName (indexName p.1 p.2) name) := by
  rw [addIndex, h, if_neg Bool.false_ne_true]
  simp [taken]

theorem indexed_addIndex (h : taken indexes (indexName p.1 p.2) = false) (q : String × String) :
    Indexed (addIndex indexes p) q ↔ Indexed indexes q ∨ SameColumn p q := by
  rw [addIndex, h, if_neg Bool.false_ne_true]
  simp [Indexed, or_and_right, exists_or]

end

theorem taken_congr {a b : String} (h : sameName a b = true) (indexes : List StoredIndex) :
    taken indexes a = taken indexes b := by
  rw [taken, taken]
  congr 1
  funext i
  exact sameName_right h i.name

theorem firstNamed_cons (q : String × String) (columns : List (String × String)) (name : String) :
    firstNamed (q :: columns) name =
      if sameName (indexName q.1 q.2) name then some q else firstNamed columns name := by
  rw [firstNamed, List.find?_cons]
  cases sameName (indexName q.1 q.2) name <;> rfl

theorem indexed_foldl (columns : List (String × String)) (indexes : List StoredIndex)
    (p : String × String) :
    Indexed (columns.foldl addIndex indexes) p ↔ Indexed indexes p ∨
      taken indexes (indexName p.1 p.2) = false ∧
        ∃ q ∈ firstNamed columns (indexName p.1 p.2), SameColumn q p := by
  induction columns generalizing indexes with
  | nil => simp [firstNamed]
  | cons q columns ih =>
    rw [List.foldl_cons, ih, firstNamed_cons]
    -- a column of another name leaves the name as free as it was, and one of this name takes it
    cases hname : sameName (indexName q.1 q.2) (indexName p.1 p.2) with
    | true =>
      have hsame := taken_congr hname indexes
      cases htaken : taken indexes (indexName q.1 q.2) with
      | true => simp [addIndex_of_taken htaken, ← hsame, htaken]
      | false => simp [indexed_addIndex htaken, taken_addIndex htaken, ← hsame, htaken, hname]
    | false =>
      have hother : ¬ SameColumn q p := fun h => absurd (hname ▸ h.indexName) (by decide)
      cases htaken : taken indexes (indexName q.1 q.2) with
      | true => simp [addIndex_of_taken htaken]
      | false => simp [indexed_addIndex htaken, taken_addIndex htaken, hname, hother]

namespace Store

theorem indexes_createTable {s s' : Store} {t : TableDefinition} {ifNotExists : Bool}
    (h : s.createTable t ifNotExists = .ok s') : s'.indexes = s.indexes := by
  rcases createTable_cases h with rfl | ⟨_, rfl⟩ <;> rfl

theorem indexes_addColumn {s s' : Store} {table : String} {c : ColumnDefinition}
    (h : s.addColumn table c = .ok s') : s'.indexes = s.indexes := by
  simp only [addColumn, bind, Except.bind, pure, Except.pure, throw, throwThe,
    MonadExceptOf.throw] at h
  split at h
  · cases h
  split at h
  · cases h
  split at h
  · cases h
  split at h
  · cases h
  · rw [← Except.ok.inj h, replace]

theorem createUniqueIndex_eq {s s' : Store} {name table column : String}
    (h : s.createUniqueIndex name table column = .ok s') :
    s' = if s.hasIndex name then s
      else { s with indexes := s.indexes ++ [⟨name, table, column⟩] } := by
  simp only [createUniqueIndex, bind, Except.bind, pure, Except.pure, throw, throwThe,
    MonadExceptOf.throw, discard, Functor.discard, Functor.mapConst] at h
  split at h
  · cases h
  split at h
  · cases h
  split at h
  · cases h
  split at h
  · rename_i htaken
    rw [if_pos htaken, Except.ok.inj h]
  · rename_i hfree
    rw [if_neg hfree]
    split at h
    · cases h
    · exact (Except.ok.inj h).symm

end Store

theorem visible_keep (db : Database) (s : Store) : (db.keep s).visible = s := by
  rw [keep]
  split <;> simp_all [visible]

theorem visible_begin {db db' : Database} {a : Answer}
    (h : db.answer "BEGIN" = .ok (a, db')) : db'.visible = db.visible := by
  rw [answer_begin, perform] at h
  split at h
  · cases h
  · rename_i hnone
    obtain ⟨_, rfl⟩ := Prod.mk.inj (Except.ok.inj h)
    simp [visible, hnone]

theorem visible_commit {db db' : Database} {a : Answer}
    (h : db.answer "COMMIT" = .ok (a, db')) : db'.visible = db.visible := by
  rw [answer_commit, perform] at h
  split at h
  · rename_i s hs
    obtain ⟨_, rfl⟩ := Prod.mk.inj (Except.ok.inj h)
    simp [visible, hs]
  · cases h

theorem visible_of_read {db db' : Database} {a : Answer} {sql : String} {command : Command}
    (hread : Command.read? sql = some command) (hcommand : command.isBoundary = false)
    (h : db.answer sql = .ok (a, db')) : db.visible.apply command = .ok (a, db'.visible) := by
  rw [db.answer_of_read hread] at h
  split at h
  · cases h
  · rw [perform_of_not_boundary db hcommand] at h
    obtain ⟨⟨a, s⟩, happly, h⟩ := except_bind_eq_ok h
    obtain ⟨rfl, rfl⟩ := Prod.mk.inj (Except.ok.inj h)
    rw [happly]
    exact congrArg (fun s => Except.ok (a, s)) (visible_keep db s).symm

/-- A catalog of indexes behind a connection, as the next statement sees it. All tables share the
names of their indexes. Nothing is said of calls that fail. -/
structure KeepsIndexes (c : Connection σ) (indexes : σ → List StoredIndex) : Prop where
  begins {l l' : σ} : Call.begin.send c l = (.ok (), l') → indexes l' = indexes l
  commits {l l' : σ} : Call.commit.send c l = (.ok (), l') → indexes l' = indexes l
  createsTable {l l' : σ} {sql : String} {t : TableDefinition} {ifNotExists : Bool} :
    Command.read? sql = some (.createTable t ifNotExists) →
    Call.send c ⟨.execute, sql⟩ l = (.ok (), l') → indexes l' = indexes l
  addsColumn {l l' : σ} {sql table : String} {column : ColumnDefinition} :
    Command.read? sql = some (.addColumn table column) →
    Call.send c ⟨.execute, sql⟩ l = (.ok (), l') → indexes l' = indexes l
  createsIndex {l l' : σ} {sql name table column : String} :
    Command.read? sql = some (.createUniqueIndex name table column) →
    Call.send c ⟨.execute, sql⟩ l = (.ok (), l') → indexes l' =
      if taken (indexes l) name then indexes l else indexes l ++ [⟨name, table, column⟩]

theorem keepsIndexes : KeepsIndexes connection fun db => db.visible.indexes where
  begins h := by
    obtain ⟨_, h⟩ := answer_of_send h
    rw [visible_begin h]
  commits h := by
    obtain ⟨_, h⟩ := answer_of_send h
    rw [visible_commit h]
  createsTable hread h := by
    obtain ⟨_, h⟩ := answer_of_send h
    obtain ⟨s, hcreate, hs⟩ := except_bind_eq_ok (visible_of_read hread rfl h)
    obtain ⟨_, rfl⟩ := Prod.mk.inj (Except.ok.inj hs)
    exact Store.indexes_createTable hcreate
  addsColumn hread h := by
    obtain ⟨_, h⟩ := answer_of_send h
    obtain ⟨s, hadd, hs⟩ := except_bind_eq_ok (visible_of_read hread rfl h)
    obtain ⟨_, rfl⟩ := Prod.mk.inj (Except.ok.inj hs)
    exact Store.indexes_addColumn hadd
  createsIndex hread h := by
    obtain ⟨_, h⟩ := answer_of_send h
    obtain ⟨s, hindex, hs⟩ := except_bind_eq_ok (visible_of_read hread rfl h)
    obtain ⟨_, rfl⟩ := Prod.mk.inj (Except.ok.inj hs)
    rw [Store.createUniqueIndex_eq hindex]
    exact apply_ite Store.indexes _ _ _

namespace KeepsIndexes

variable {c : Connection σ} {indexes : σ → List StoredIndex} (hc : KeepsIndexes c indexes)

include hc

theorem of_change {l l' : σ} {change : TableChange} {cs : List ColumnDefinition}
    (hcs : List.Forall₂ Describes change.definitions cs)
    (h : Call.send c ⟨.execute, change.sql⟩ l = (.ok (), l')) :
    indexes l' = change.indexed.foldl addIndex (indexes l) := by
  cases change with
  | create table definitions foreignKeys =>
    exact hc.createsTable (read_createTable table hcs foreignKeys) h
  | addColumn table definition =>
    cases hcs with
    | cons hcolumn _ => exact hc.addsColumn (hcolumn.read_addColumn table) h
  | index table column => exact hc.createsIndex (read_createUniqueIndex table column) h

theorem of_changes {l l' : σ} {changes : List TableChange} {inTransaction : Bool}
    {sent : List Call} {cs : List ColumnDefinition}
    (hcs : List.Forall₂ Describes (changes.flatMap TableChange.definitions) cs)
    (h : Sends c l (Call.changes inTransaction (changes.map TableChange.sql)) sent (.ok ()) l') :
    indexes l' = (changes.flatMap TableChange.indexed).foldl addIndex (indexes l) := by
  induction changes generalizing l inTransaction sent cs with
  | nil =>
    cases h
    rfl
  | cons change changes ih =>
    have hfirst := (List.forall₂_take_append _ _ _ hcs.flip).flip
    have hrest := (List.forall₂_drop_append _ _ _ hcs.flip).flip
    -- behind the first change no transaction is open, so the induction goes on with `false`
    have hchange {l : σ} {sent : List Call}
        (h : Sends c l (⟨.execute, change.sql⟩ :: .commit ::
          Call.changes false (changes.map TableChange.sql)) sent (.ok ()) l') :
        indexes l' =
          ((change :: changes).flatMap TableChange.indexed).foldl addIndex (indexes l) := by
      obtain ⟨changed, _, hsend, h⟩ := h.cons_ok
      obtain ⟨committed, _, hcommit, h⟩ := h.cons_ok
      rw [ih hrest h, hc.commits hcommit, hc.of_change hfirst hsend, List.flatMap_cons,
        List.foldl_append]
    cases inTransaction with
    | true => exact hchange h
    | false =>
      obtain ⟨begun, _, hbegin, h⟩ := h.cons_ok
      rw [hchange h, hc.begins hbegin]

theorem of_steps {s : Session σ} (hs : s.connected = true) (hdialect : s.dialect = .sqlite)
    {steps : List Step} (hgrow : ∀ step ∈ steps, step.Grows)
    (hok : (Step.runAll c steps s).1 = .ok ()) :
    indexes (Step.runAll c steps s).2.link =
      (steps.flatMap (Step.marks .sqlite)).foldl addIndex (indexes s.link) := by
  obtain ⟨sent, outcome, hsends, hresult⟩ := (Step.performs_runAll c hs steps).sends
  obtain ⟨_, rfl, hplan⟩ := except_bind_eq_ok (hresult.symm.trans hok)
  obtain ⟨texts, htexts⟩ := Step.exists_defines hgrow hplan
  obtain ⟨changes, hchanges, hamounts⟩ := Step.exists_changes htexts
  obtain ⟨cs, hcs⟩ := Step.exists_describes htexts
  rw [hchanges] at hsends
  rw [hc.of_changes (hamounts.definitions ▸ hcs) hsends, hamounts.indexed, hdialect]

end KeepsIndexes

end Database

open Migration Statement Database

/-- Two different columns have one name for their indexes exactly where an underscore can stand for
the border between table and column in two places. So when steps that create tables and add columns
went well, a column has an index exactly if it had one before, or no index had the name of its own
and, of the columns marked for an index of that name, it is the first. -/
theorem indexed_iff {c : Connection σ} {indexes : σ → List StoredIndex}
    (hc : KeepsIndexes c indexes) {s : Session σ} (hs : s.connected = true)
    (hdialect : s.dialect = .sqlite) {steps : List Step} (hgrow : ∀ step ∈ steps, step.Grows)
    (hok : (Step.runAll c steps s).1 = .ok ()) :
    (∀ p q : String × String, indexName p.1 p.2 = indexName q.1 q.2 ↔
      p = q ∨ Shifted p q ∨ Shifted q p) ∧
    ∀ p : String × String,
      Indexed (indexes (Step.runAll c steps s).2.link) p ↔
        Indexed (indexes s.link) p ∨
        taken (indexes s.link) (indexName p.1 p.2) = false ∧
          ∃ q ∈ firstNamed (steps.flatMap (Step.marks .sqlite)) (indexName p.1 p.2),
            SameColumn q p := by
  refine ⟨indexName_eq_iff, fun p => ?_⟩
  rw [hc.of_steps hs hdialect hgrow hok]
  exact indexed_foldl _ _ p

namespace Sample

def aisle : Schema where
  table := "aisle"
  columns := [{ name := "row_seat", type := .plainString, unique := true }]

def aisleRow : Schema where
  table := "aisle_row"
  columns := [{ name := "seat", type := .plainString, unique := true }]

def seating : List Step := [.createTable aisle, .createTable aisleRow]

def house : Session Database := { Session.fresh .sqlite {} with connected := true }

theorem seating_done : (Step.runAll Database.connection seating house).1 = .ok () := by
  decide +kernel

theorem seating_indexed :
    KeepsIndexes Database.connection (fun db => db.visible.indexes) ∧
    house.connected = true ∧ house.dialect = .sqlite ∧ (∀ step ∈ seating, step.Grows) ∧
    (Step.runAll Database.connection seating house).1 = .ok () ∧
    let made := (Step.runAll Database.connection seating house).2.link.visible
    Indexed made.indexes ("aisle", "row_seat") ∧ ¬ Indexed made.indexes ("aisle_row", "seat") := by
  have hgrow : ∀ step ∈ seating, step.Grows := by simp [seating, Step.Grows]
  refine ⟨keepsIndexes, rfl, rfl, hgrow, seating_done, ?_⟩
  obtain ⟨_, hindexed⟩ := indexed_iff keepsIndexes (s := house) rfl rfl hgrow seating_done
  have hfirst : firstNamed (seating.flatMap (Step.marks .sqlite)) "aisle_row_seat_idx" =
      some ("aisle", "row_seat") := by decide
  refine ⟨(hindexed _).2 (.inr ⟨rfl, _, hfirst, sameName_self _, sameName_self _⟩), fun h => ?_⟩
  rcases (hindexed _).1 h with ⟨_, habsurd, _⟩ | ⟨_, q, hq, htable, _⟩
  · cases habsurd
  · cases hfirst.symm.trans hq
    exact absurd htable (by decide)

def seat : Insert where
  dialect := .sqlite
  items := [⟨"AisleRow", ⟨aisleRow, [.text "A1"], rfl⟩⟩]

/-- Two rows with one seat, in a column that was to be unique. -/
def doubled : List Operation := [
  .connect,
  .act (.createTable aisle),
  .act (.createTable aisleRow),
  .act (.insert seat),
  .act (.insert seat)]

theorem seats_doubled :
    Statement.indexName "aisle" "row_seat" = Statement.indexName "aisle_row" "seat" ∧
    (Step.createTable aisleRow).marks .sqlite = [("aisle_row", "seat")] ∧
    let made := (Session.runAll Database.connection doubled (Session.fresh .sqlite {})).link.durable
    made.indexes = [⟨"aisle_row_seat_idx", "aisle", "row_seat"⟩] ∧
      (made.table? "aisle_row").map StoredTable.rows =
        some [[.text "A1"], [.text "A1"]] := by
  decide +kernel

end Sample

end RecordMapper
