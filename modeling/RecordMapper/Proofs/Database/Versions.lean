import RecordMapper.Proofs.Builder.Chains
import RecordMapper.Proofs.Database.Names
import RecordMapper.Proofs.Database.Transactions
import RecordMapper.Proofs.Engine.Bootstrap

namespace RecordMapper.Database

open Sql

def versionTable : TableDefinition where
  name := "orm_db_version"
  columns := [{ name := "value", type := "INTEGER", notNull := true }]
  foreignKeys := []

def versionRows (versions : List Int64) : StoredTable where
  definition := versionTable
  rows := versions.map fun v => [.integer v]

def version? : Row → Option Int64
  | [.integer v] => some v
  | _ => none

def Store.versions? (s : Store) : Option (List Int64) :=
  match s.table? "orm_db_version" with
  | none => some []
  | some t =>
    let versions := t.rows.filterMap version?
    if t = versionRows versions then some versions else none

theorem filterMap_versionRows (versions : List Int64) :
    (versionRows versions).rows.filterMap version? = versions := by
  simp [versionRows, List.filterMap_map, Function.comp_def, version?]

theorem Store.versions?_eq_some {s : Store} {versions : List Int64} :
    s.versions? = some versions ↔
      s.table? "orm_db_version" = none ∧ versions = [] ∨
        s.table? "orm_db_version" = some (versionRows versions) := by
  rw [versions?]
  cases s.table? "orm_db_version" with
  | none => simp [eq_comm]
  | some t =>
    constructor
    · intro h
      simp only [Option.ite_none_right_eq_some, Option.some.injEq] at h
      obtain ⟨ht, rfl⟩ := h
      exact .inr (congrArg some ht)
    · rintro (⟨h, _⟩ | h)
      · contradiction
      · cases h
        simp [filterMap_versionRows]

theorem table?_replace {tables : List StoredTable} {name : String} {t t' : StoredTable}
    (h : tables.find? (fun u => sameName u.name name) = some t)
    (ht' : sameName t'.name name = true) :
    (tables.map fun u => if sameName u.name name then t' else u).find?
      (fun u => sameName u.name name) = some t' := by
  induction tables with
  | nil => contradiction
  | cons u tables ih =>
    cases hu : sameName u.name name with
    | true => simp [hu, ht']
    | false =>
      simp only [List.find?_cons, hu] at h
      simp [hu, ih h]

theorem Store.versions?_replace {s : Store} {versions : List Int64} {t : StoredTable}
    (h : s.table? "orm_db_version" = some t) :
    (s.replace "orm_db_version" (versionRows versions)).versions? = some versions :=
  Store.versions?_eq_some.2 (.inr (table?_replace h (sameName_self _)))

namespace StoredTable

theorem position?_versionRows (versions : List Int64) :
    (versionRows versions).position? "value" = some 0 := by
  show versionTable.columns.findIdx? (fun c => sameName c.name "value") = some 0
  decide +kernel

theorem numberPosition?_versionRows (versions : List Int64) :
    (versionRows versions).numberPosition? = none := by
  show versionTable.columns.findIdx? isRowNumber = none
  decide +kernel

theorem scanPosition?_versionRows (versions : List Int64) (uniques : List (Option Nat)) :
    (versionRows versions).scanPosition? uniques ["value"] [] = none := by
  have hrange : ∀ is : List Nat,
      is.find? (fun i => (versionRows versions).boundsRange i []) = none :=
    fun is => List.find?_eq_none.2 fun _ _ => by simp [boundsRange]
  have hanswers : ∀ is : List Nat,
      is.find? (fun i => (versionRows versions).answersAt i ["value"]) = none := by
    refine fun is => List.find?_eq_none.2 fun i _ => ?_
    have hlength : (versionRows versions).columns.length = 1 := rfl
    rw [answersAt, numberPosition?_versionRows, hlength]
    simp
  rw [scanPosition?, numberPosition?_versionRows, hrange, hanswers]
  rfl

theorem inOrder_versionRows (versions : List Int64) (rows : List Row) :
    (versionRows versions).inOrder rows = rows := by
  rw [inOrder, numberPosition?_versionRows]
  rfl

theorem withRows_versionRows {versions : List Int64} {rows : List Row} {t : StoredTable}
    {uniques : List (Option Nat)} (h : (versionRows versions).withRows uniques rows = .ok t) :
    t = { definition := versionTable, rows } := by
  rw [withRows, inOrder_versionRows] at h
  split at h
  · cases h
    rfl
  · contradiction

theorem lookup_versionRows (versions : List Int64) (v : Int64) :
    (versionRows versions).lookup [.integer v] "value" = .integer v := by
  rw [lookup, position?_versionRows]
  rfl

theorem accept_value (v : Int64) :
    accept { name := "value", type := "INTEGER", notNull := true } (.integer v) =
      .ok (.integer v) := rfl

theorem fullRow_versionRows (versions : List Int64) (v : Int64) :
    (versionRows versions).fullRow [0] [.integer v.toInt] = .ok [.integer v] := by
  have hcolumns : (versionRows versions).columns =
      [{ name := "value", type := "INTEGER", notNull := true }] := rfl
  have hplain : isRowNumber { name := "value", type := "INTEGER", notNull := true } = false := rfl
  simp [fullRow, hcolumns, hplain, literalValue, accept_value]

theorem insertRows_versionRows {versions : List Int64} {v : Int64} {uniques : List (Option Nat)}
    {added : List Row} {t : StoredTable}
    (h : (versionRows versions).insertRows uniques [0] [[.integer v.toInt]] = .ok (added, t)) :
    t = versionRows (versions ++ [v]) := by
  rw [insertRows, fullRow_versionRows] at h
  obtain ⟨row, hrow, h⟩ := except_bind_eq_ok h
  cases hrow
  obtain ⟨t', ht', h⟩ := except_bind_eq_ok h
  cases h
  rw [withRows_versionRows ht']
  simp [versionRows]

theorem update_versionRows {versions : List Int64} {v : Int64} {uniques : List (Option Nat)}
    {affected : Nat} {t : StoredTable}
    (h : (versionRows versions).update uniques [("value", .integer v.toInt)] [] =
      .ok (affected, t)) : t = versionRows (versions.map fun _ => v) := by
  rw [StoredTable.update] at h
  obtain ⟨changes, hchanges, h⟩ := except_bind_eq_ok h
  obtain ⟨rows, hrows, h⟩ := except_bind_eq_ok h
  obtain ⟨t', ht', h⟩ := except_bind_eq_ok h
  cases h
  have hvalue : literalValue (.integer v.toInt) = .integer v := by simp [literalValue]
  obtain rfl : [(0, .integer v)] = changes := by
    simpa [position, position?_versionRows, hvalue, bind, Except.bind, pure, Except.pure]
      using hchanges
  rw [mapM_eq_map (g := fun _ => [.integer v])] at hrows
  · cases hrows
    rw [withRows_versionRows ht', versionRows, versionRows, List.map_map, List.map_map]
    rfl
  · intro row hrow
    obtain ⟨u, _, rfl⟩ := List.mem_map.1 hrow
    have hselects : (versionRows versions).selects [] [.integer u] = true := rfl
    rw [if_pos hselects]
    rfl

end StoredTable

namespace Store

theorem createTable_cases {s s' : Store} {t : TableDefinition} {ifNotExists : Bool}
    (h : s.createTable t ifNotExists = .ok s') :
    s' = s ∨
      s.table? t.name = none ∧ s' = { s with tables := s.tables ++ [{ definition := t }] } := by
  simp only [createTable, bind, Except.bind, pure, Except.pure, throw, throwThe,
    MonadExceptOf.throw] at h
  split at h
  · cases h
  split at h
  · cases h
  split at h
  · split at h
    · exact .inl (Except.ok.inj h).symm
    · cases h
  rename_i hnone
  split at h
  · cases h
  split at h
  · cases h
  split at h
  · cases h
  · exact .inr ⟨by simpa using hnone, (Except.ok.inj h).symm⟩

theorem table?_add (tables : List StoredTable) (indexes : List StoredIndex) (t : StoredTable)
    (name : String) :
    (Store.mk (tables ++ [t]) indexes).table? name =
      ((Store.mk tables indexes).table? name).or
        (if sameName t.name name then some t else none) := by
  rw [table?, table?, List.find?_append]
  cases h : sameName t.name name <;> simp [h]

theorem versions?_createTable {s s' : Store} {versions : List Int64} {ifNotExists : Bool}
    (h : s.versions? = some versions) (hcreate : s.createTable versionTable ifNotExists = .ok s') :
    s'.versions? = some versions := by
  rcases createTable_cases hcreate with rfl | ⟨hnone, rfl⟩
  · exact h
  · rcases versions?_eq_some.1 h with ⟨hmissing, rfl⟩ | hsome
    · have hadded := table?_add s.tables s.indexes (versionRows []) "orm_db_version"
      have hname : sameName (versionRows []).name "orm_db_version" = true := sameName_self _
      rw [hname, if_pos rfl, hmissing] at hadded
      exact versions?_eq_some.2 (.inr hadded)
    · cases hnone.symm.trans hsome

theorem versions?_createTable_other {s s' : Store} {t : TableDefinition} {ifNotExists : Bool}
    (hname : sameName t.name "orm_db_version" = false)
    (hcreate : s.createTable t ifNotExists = .ok s') : s'.versions? = s.versions? := by
  rcases createTable_cases hcreate with rfl | ⟨_, rfl⟩
  · rfl
  · have hother : sameName (StoredTable.mk t []).name "orm_db_version" = false := hname
    have hsame := table?_add s.tables s.indexes ⟨t, []⟩ "orm_db_version"
    rw [hother, if_neg (by simp), Option.or_none] at hsame
    rw [versions?, versions?, hsame]

theorem versions?_select {s : Store} {versions : List Int64} {a : Answer}
    (h : s.versions? = some versions)
    (hselect : s.select "orm_db_version" ["value"] [] (some 1) = .ok a) :
    a.rows.head? = versions.head?.map fun v => [.integer v] := by
  rcases versions?_eq_some.1 h with ⟨hnone, rfl⟩ | hsome
  · simp [select, table, hnone, bind, Except.bind] at hselect
  · have hlimit : checkLimit (some 1) = .ok () := rfl
    simp only [select, table, hsome, hlimit, bind, Except.bind, pure, Except.pure,
      StoredTable.scanPosition?_versionRows] at hselect
    cases hselect
    have hall : (versionRows versions).rows.filter ((versionRows versions).selects []) =
        (versionRows versions).rows := List.filter_eq_self.2 fun _ _ => rfl
    have hrows : (versionRows versions).rows = versions.map fun v => [.integer v] := rfl
    simp only [Option.elim_none, Option.elim_some, hall, List.cons_ne_self, if_false]
    rw [hrows]
    cases versions with
    | nil => rfl
    | cons v versions => simp [StoredTable.lookup_versionRows]

theorem versions?_insert {s s' : Store} {versions : List Int64} {v : Int64} {a : Answer}
    (h : s.versions? = some versions)
    (hinsert : s.insert "orm_db_version" ["value"] [[.integer v.toInt]] none = .ok (a, s')) :
    s'.versions? = some (versions ++ [v]) := by
  rcases versions?_eq_some.1 h with ⟨hnone, rfl⟩ | hsome
  · simp [insert, table, hnone, bind, Except.bind] at hinsert
  · have hposition : (versionRows versions).position "value" = .ok 0 := by
      rw [StoredTable.position, StoredTable.position?_versionRows]
    rw [insert, table, hsome, if_neg (by simp)] at hinsert
    obtain ⟨t, ht, hinsert⟩ := except_bind_eq_ok hinsert
    cases ht
    obtain ⟨positions, hpositions, hinsert⟩ := except_bind_eq_ok hinsert
    rw [mapM_eq_map (g := fun _ => 0) (by simp [hposition])] at hpositions
    cases hpositions
    obtain ⟨⟨added, t⟩, hrows, hinsert⟩ := except_bind_eq_ok hinsert
    cases hinsert
    rw [StoredTable.insertRows_versionRows hrows]
    exact versions?_replace hsome

theorem versions?_update {s s' : Store} {versions : List Int64} {v : Int64} {a : Answer}
    (h : s.versions? = some versions)
    (hupdate : s.update "orm_db_version" [("value", .integer v.toInt)] [] = .ok (a, s')) :
    s'.versions? = some (versions.map fun _ => v) := by
  rcases versions?_eq_some.1 h with ⟨hnone, rfl⟩ | hsome
  · simp [update, table, hnone, bind, Except.bind] at hupdate
  · rw [update, table, hsome] at hupdate
    obtain ⟨t, ht, hupdate⟩ := except_bind_eq_ok hupdate
    cases ht
    obtain ⟨⟨affected, t⟩, hrows, hupdate⟩ := except_bind_eq_ok hupdate
    cases hupdate
    rw [StoredTable.update_versionRows hrows]
    exact versions?_replace hsome

end Store

open SchemaVersion

theorem read_creation :
    Command.read? (creation .sqlite) = some (.createTable versionTable true) := by
  decide +kernel

theorem read_query :
    Command.read? query = some (.select "orm_db_version" ["value"] [] (some 1)) := by
  decide +kernel

theorem spells_version (v : Int64) :
    Spells (Dialect.sqlite.literal (.integer v)).toList (Literal.integer v.toInt).tokens :=
  Dialect.spells_literal (d := .sqlite) (t := .plainInteger) rfl

theorem read_insertion (v : Int64) :
    Command.read? (insertion .sqlite v) =
      some (.insert "orm_db_version" ["value"] [[.integer v.toInt]] none) :=
  (spells_insert _ _ _ (.cons (.cons (spells_version v) .nil) .nil)).command
    (insert_read _ _ (by simp) _)

theorem read_change (v : Int64) :
    Command.read? (change .sqlite v) =
      some (.update "orm_db_version" [("value", .integer v.toInt)] []) := by
  have hassignment :
      Spells (quoteName "value" ++ " = " ++ Dialect.sqlite.literal (.integer v)).toList
        (assignmentTokens ("value", .integer v.toInt)) := by
    have hvalue := (spells_name "value").blank ((spells_operator .eq).blank (spells_version v))
    simpa [assignmentTokens, operatorTokens, Operator.sql] using hvalue
  have hempty : Spells (" ".intercalate []).toList (Filter.tokens []) := spells_nil
  exact (spells_update _ (.cons hassignment .nil) hempty (by simp)).command
    (update_read _ (by simp) (by simp [Filter.Proper]))

theorem spares_createTable {sql : String} {t : TableDefinition} {ifNotExists : Bool}
    (hread : Command.read? sql = some (.createTable t ifNotExists))
    (hname : sameName t.name "orm_db_version" = false) :
    Spares effect Store.versions? ⟨.execute, sql⟩ := by
  refine ⟨execute_ne_reading sql, fun s versions hversions => ?_⟩
  rcases effect_cases s hread rfl .execute with heffect | ⟨a, happly⟩
  · rwa [heffect]
  · obtain ⟨s', hcreate, hs'⟩ := except_bind_eq_ok happly
    obtain ⟨_, heffect⟩ := Prod.mk.inj (Except.ok.inj hs')
    rwa [← heffect, Store.versions?_createTable_other hname hcreate]

theorem answer_of_fetchOptional {db : Database} {sql : String} {row : Option Row}
    (h : (connection.fetchOptional sql db).1 = .ok row) :
    ∃ a db', db.answer sql = .ok (a, db') ∧ row = a.rows.head? := by
  simp only [connection, run] at h
  split at h
  · rename_i a db' hanswer
    cases h
    exact ⟨a, db', hanswer, rfl⟩
  · contradiction

theorem keepsVersions :
    KeepsVersions connection working effect Store.versions? .sqlite where
  creates := by
    intro db db' s versions hs hversions h
    obtain ⟨a, hanswer⟩ := answer_of_send h
    have happly := (apply_of_answer hs read_creation rfl hanswer .execute).1
    obtain ⟨s', hcreate, hs'⟩ := except_bind_eq_ok happly
    cases hs'
    exact Store.versions?_createTable hversions hcreate
  reads := by
    intro db s versions row hs hversions h
    obtain ⟨a, db', hanswer, rfl⟩ := answer_of_fetchOptional h
    have happly := (apply_of_answer hs read_query rfl hanswer .fetchOptional).1
    obtain ⟨a', hselect, hs'⟩ := except_bind_eq_ok happly
    obtain ⟨rfl, heffect⟩ := Prod.mk.inj (Except.ok.inj hs')
    refine ⟨heffect ▸ hversions, ?_⟩
    rw [Store.versions?_select hversions hselect]
    cases versions with
    | nil => exact .inl ⟨rfl, rfl⟩
    | cons v versions => exact .inr ⟨v, List.mem_cons_self .., rfl⟩
  inserts := by
    intro db db' s versions v hs hversions h
    obtain ⟨a, hanswer⟩ := answer_of_send h
    exact Store.versions?_insert hversions
      (apply_of_answer hs (read_insertion v) rfl hanswer .execute).1
  updates := by
    intro db db' s versions v hs hversions h
    obtain ⟨a, hanswer⟩ := answer_of_send h
    exact Store.versions?_update hversions
      (apply_of_answer hs (read_change v) rfl hanswer .execute).1

end RecordMapper.Database

namespace RecordMapper.Sample

open Database SchemaVersion

def shelfOnly : Plan Database := fun _ =>
  ([.createTable shelf], .error (.database "no paper left"))

def firstStart : Start Database where
  url := .sqliteMemory
  version := 1
  onCreate := some shelfOnly
  link := {}

def secondStart : Start Database where
  url := .sqliteMemory
  version := 1
  onCreate := some fun _ => ([], .ok ())
  link := { durable := (firstStart.run connection).2.link.1.durable }

def thirdStart : Start Database where
  url := .sqliteMemory
  version := 2
  onUpdate := some fun _ _ => shelfOnly
  link := { durable := (secondStart.run connection).2.link.1.durable }

def shelfCreation : String := Statement.createTable "shelf" ["\"title\" TEXT"] true []

theorem requests_shelf : (Action.createTable shelf).requests .sqlite =
    Request.change shelfCreation ++ [.report .info "Created table shelf"] := rfl

theorem shelfOnly_spares : shelfOnly.Spares .sqlite effect Store.versions? := by
  intro s a ha
  obtain rfl := List.mem_singleton.1 ha
  have hread : Sql.Command.read? shelfCreation = some (.createTable
      { name := "shelf", columns := [{ name := "title", type := "TEXT" }], foreignKeys := [] }
      true) := by decide +kernel
  refine ⟨trivial, fun call hcall => ?_⟩
  rw [requests_shelf] at hcall
  simp only [Request.change, List.cons_append, List.nil_append, List.mem_cons, reduceCtorEq,
    Request.statement.injEq, List.not_mem_nil, or_false] at hcall
  subst hcall
  exact spares_createTable hread (by decide +kernel)

def starts : List (Start Database) := [firstStart, secondStart, thirdStart]

theorem starts_spare :
    ∀ x ∈ starts, x.url.driver.dialect = .sqlite ∧ x.Spares effect Store.versions? := by
  have hidle : ∀ {p : Plan Database}, (∀ s, (p s).1 = []) →
      p.Spares .sqlite effect Store.versions? := by
    intro p hp s a ha
    rw [hp] at ha
    cases ha
  simp only [starts, List.forall_mem_cons, List.not_mem_nil, false_implies, implies_true, and_true]
  refine ⟨⟨rfl, ?_, nofun⟩, ⟨rfl, ?_, nofun⟩, ⟨rfl, nofun, ?_⟩⟩
  · rintro p ⟨⟩
    exact shelfOnly_spares
  · rintro p ⟨⟩
    exact hidle fun _ => rfl
  · rintro p ⟨⟩ v
    exact shelfOnly_spares

theorem starts_consecutive : Consecutive connection durable working {} starts :=
  have hkept (s : Store) : durable { durable := s } = s := rfl
  ⟨rfl, rfl, hkept _, rfl, hkept _, rfl, trivial⟩

theorem starts_sound :
    (∀ x ∈ starts, x.url.driver.dialect = .sqlite ∧ x.Spares effect Store.versions?) ∧
      Store.versions? {} = some [] ∧ Consecutive connection durable working {} starts ∧
      (∀ x ∈ starts, x.Sound connection durable working Store.versions?) ∧
      ((∀ x ∈ starts, ¬ (x.run connection).2.link.2.HasFailure) →
        starts.countP (fun x => .hook .create false ∈ (x.run connection).2.link.2.sights) +
          ([] : List Int64).length ≤ 1) :=
  ⟨starts_spare, rfl, starts_consecutive,
    versions_of_starts transactional keepsVersions starts_spare
      (rfl : Store.versions? {} = some []) (Nat.zero_le 1) starts_consecutive⟩

end RecordMapper.Sample
