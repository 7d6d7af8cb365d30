import RecordMapper.Proofs.Builder.Batches
import RecordMapper.Proofs.Migration.Steps

namespace RecordMapper

open Sql Session

/-- Whether a column has to be given a value: it is not nullable, and no counter fills it. -/
def Column.Required (c : Column) : Prop := c.nullable = false ∧ c.type.isAutoincrement = false

namespace Schema

/-- Whether no column that has to be given a value is NULL in a row. -/
def Fills (s : Schema) (null : α) (row : List α) : Prop :=
  ∀ (i : Nat) (c : Column), s.columns[i]? = some c → c.Required → row[i]? ≠ some null

def literals (d : Dialect) (s : Schema) (values : List Value) : List Literal :=
  (s.columns.zip values).map fun p => p.1.type.written d p.2

end Schema

theorem ColumnType.written_eq_null {d : Dialect} {t : ColumnType} {v : Value} {sql : String}
    (h : t.literal d v = .ok sql) (ht : t.isAutoincrement = false) :
    t.written d v = .null ↔ v = .null := by
  rcases literal_cases h with ⟨-, hcounted, -⟩ | ⟨hsuits, -, hwritten⟩
  · simp [ht] at hcounted
  · rw [hwritten]
    rcases hsuits with rfl | hvalid
    · cases d <;> simp [Dialect.written]
    · refine iff_of_false (d.written_ne_null hvalid) ?_
      rintro rfl
      simp [validate, Value.kind?] at hvalid

theorem Schema.literals_null {d : Dialect} {s : Schema} {values : List Value}
    (h : ∀ p ∈ s.columns.zip values, ∃ sql, p.1.type.literal d p.2 = .ok sql) {i : Nat} {c : Column}
    (hc : s.columns[i]? = some c) (hrequired : c.Required) :
    (s.literals d values)[i]? = some .null ↔ values[i]? = some .null := by
  rw [literals, List.getElem?_map, Option.map_eq_some_iff]
  constructor
  · rintro ⟨p, hp, hnull⟩
    obtain ⟨sql, hsql⟩ := h p (List.mem_of_getElem? hp)
    obtain ⟨hcolumn, hvalue⟩ := List.getElem?_zip_eq_some.1 hp
    cases hc.symm.trans hcolumn
    rw [hvalue, (ColumnType.written_eq_null hsql hrequired.2).1 hnull]
  · intro hvalue
    have hp : (s.columns.zip values)[i]? = some (c, .null) :=
      List.getElem?_zip_eq_some.2 ⟨hc, hvalue⟩
    obtain ⟨sql, hsql⟩ := h _ (List.mem_of_getElem? hp)
    exact ⟨_, hp, (ColumnType.written_eq_null hsql hrequired.2).2 rfl⟩

namespace Insert

theorem read_toSql {b : Insert} {sql : String} (h : b.toSql = .ok (some sql)) :
    ∃ first rest, b.items = first :: rest ∧
      Command.read? sql = some (.insert first.record.schema.table first.record.schema.columnNames
        ((first :: rest).map fun x => first.record.schema.literals b.dialect x.record.values)
        (first.record.schema.primaryKey?.map Column.name)) ∧
      ∀ x ∈ first :: rest, ∀ p ∈ first.record.schema.columns.zip x.record.values,
        ∃ text, p.1.type.literal b.dialect p.2 = .ok text := by
  cases hitems : b.items with
  | nil => simp [toSql, hitems] at h
  | cons first rest =>
    rcases toSql_of_items hitems with ⟨_, _, _, htoSql⟩ | ⟨_, htoSql⟩
    · cases htoSql.symm.trans h
    · rw [htoSql] at h
      obtain ⟨texts, htexts, hsql⟩ := except_map_eq_ok h
      cases hsql
      have hrows := forall₂_of_mapM htexts
      have hcells : ∀ {x : InsertItem} {row : List String},
          rowSql b.dialect first.record.schema x.record = .ok row →
          List.Forall₂ (fun text l => Spells text.toList l.tokens) row
            (first.record.schema.literals b.dialect x.record.values) := by
        intro x row hrow
        rw [Schema.literals, List.forall₂_map_right_iff]
        exact ((forall₂_of_mapM hrow).imp fun p text => ColumnType.spells_literal).flip
      refine ⟨first, rest, rfl, ?_, fun x hx p hp => ?_⟩
      · refine (spells_insert _ _ _ ?_).command (insert_read _ _ (by simp) _)
        rw [List.forall₂_map_right_iff]
        exact (hrows.imp fun x row hrow => hcells hrow).flip
      · obtain ⟨row, hrow⟩ := ok_of_mapM htexts hx
        exact ok_of_mapM hrow hp

theorem read_nulls {b : Insert} {sql : String} (h : b.toSql = .ok (some sql)) :
    ∃ first rest rows, b.items = first :: rest ∧
      let t := first.record.schema
      Command.read? sql =
        some (.insert t.table t.columnNames rows (t.primaryKey?.map Column.name)) ∧
      List.Forall₂ (fun x row => ∀ (i : Nat) (col : Column), t.columns[i]? = some col →
        col.Required → (row[i]? = some .null ↔ x.record.values[i]? = some .null))
        (first :: rest) rows ∧
      ((∀ row ∈ rows, t.Fills .null row) ↔ ∀ x ∈ first :: rest, t.Fills .null x.record.values) := by
  obtain ⟨first, rest, hitems, hread, hliterals⟩ := read_toSql h
  refine ⟨first, rest, _, hitems, hread, ?_, ?_⟩
  · rw [List.forall₂_map_right_iff, List.forall₂_same]
    exact fun x hx i col => Schema.literals_null (hliterals x hx)
  · rw [List.forall_mem_map]
    refine forall₂_congr fun x hx => forall₃_congr fun i col hcol => ?_
    exact forall_congr' fun hrequired =>
      not_congr (Schema.literals_null (hliterals x hx) hcol hrequired)

def calls (inTransaction : Bool) (b : Insert) (sql : String) : List Call :=
  (if inTransaction then [] else [.begin]) ++
    [⟨if b.hasKey then .fetchAll else .execute, sql⟩, .commit]

theorem mem_calls {inTransaction : Bool} {b : Insert} {sql : String} {call : Call}
    (h : call ∈ b.calls inTransaction sql) (hbegin : call ≠ .begin) (hcommit : call ≠ .commit) :
    call.sql = sql := by
  cases inTransaction <;> simp [calls, hbegin, hcommit] at h <;> simp [h]

theorem performs_commit {c : Connection σ} {s : Session σ} (hs : s.connected = true) {b : Insert}
    {sql : String} (herror : b.error = none) (hsql : b.toSql = .ok (some sql)) :
    Performs c (b.calls s.inTransaction sql) (.ok ()) false s
      ((discard (b.commit c) : SessionM σ Unit) s) := by
  rw [insert_eq c s.dialect, Action.requests, herror, hsql, calls]
  simp only [Request.mistake, List.nil_append, meetAll, meet, bind_pure_unit]
  rw [← List.singleton_append (x := _) (l := [Call.commit]), ← List.append_assoc]
  exact (Performs.statement hs _).bind fun t _ _ hopen => Performs.commit hopen

theorem commit_cases (c : Connection σ) (s : Session σ) (b : Insert) :
    (b.commit c s).2 = s ∨
      s.connected = true ∧ b.error = none ∧ ∃ sql, b.toSql = .ok (some sql) := by
  have hstate : (b.commit c s).2 = (meetAll c ((Action.insert b).requests s.dialect) s).2 := by
    rw [← insert_eq c s.dialect, discard_apply]
  rw [hstate, Action.requests]
  cases herror : b.error with
  | some e => exact .inl rfl
  | none =>
    cases hsql : b.toSql with
    | error e => exact .inl rfl
    | ok sql? =>
      cases sql? with
      | none => exact .inl rfl
      | some sql =>
        cases hs : s.connected with
        | true => exact .inr ⟨rfl, rfl, sql, rfl⟩
        | false =>
          refine .inl ?_
          simp only [Request.mistake, List.nil_append, meetAll, meet, bind_apply]
          rw [statement_of_unconnected c hs]

theorem sends_commit (c : Connection σ) {s : Session (σ × List Call)} (hs : s.connected = true)
    {b : Insert} {sql : String} (herror : b.error = none) (hsql : b.toSql = .ok (some sql)) :
    let done := b.commit c.traced s
    ∃ sent, Sends c s.link.1 (b.calls s.inTransaction sql) sent (done.1.map fun _ => ())
        done.2.link.1 ∧ done.2.link.2 = s.link.2 ++ sent := by
  obtain ⟨sent, hsends⟩ := (performs_commit (c := c.traced) hs herror hsql).sends_ok
  rw [discard_apply] at hsends
  exact ⟨sent, hsends.of_traced⟩

end Insert

theorem OfOneModel.stated {ident : String} {t : Schema} {xs : List Entity}
    (h : OfOneModel ident t xs) (hne : xs ≠ []) (hrecords : ∀ x ∈ xs, ∃ r, x.record = .ok r)
    (d : Dialect) :
    (Insert.ofItems d xs).error = none ∧ ∃ sql, (Insert.ofItems d xs).toSql = .ok (some sql) := by
  have herror : (Insert.ofItems d xs).error = none := by
    rw [Insert.ofItems_error, List.findSome?_eq_none_iff]
    intro x hx
    obtain ⟨r, hr⟩ := hrecords x hx
    rw [Entity.failure?, hr]
  obtain ⟨sql?, hsql⟩ := h.written d
  cases sql? with
  | none => exact absurd (Task.nil_of_toSql herror hsql) hne
  | some sql => exact ⟨herror, sql, hsql⟩

/-- What an insertion sends is an insertion into the table of its first record, with a NULL for a
column that has to be given a value exactly where the record holds one. So none of its rows has such
a NULL exactly if no record of the batch does. Records of one model are not looked through for it:
their insertion is sent, call after call up to the first that fails. -/
theorem nulls_sent (c : Connection σ) (s : Session (σ × List Call)) (xs : List Entity) :
    let b := Insert.ofItems s.dialect xs
    let done := b.commit c.traced s
    (∀ sent, done.2.link.2 = s.link.2 ++ sent → ∀ call ∈ sent, call ≠ .begin → call ≠ .commit →
      ∃ first rest rows, xs.filterMap Entity.item? = first :: rest ∧
        let t := first.record.schema
        Command.read? call.sql =
          some (.insert t.table t.columnNames rows (t.primaryKey?.map Column.name)) ∧
        List.Forall₂ (fun x row => ∀ (i : Nat) (col : Column), t.columns[i]? = some col →
          col.Required → (row[i]? = some .null ↔ x.record.values[i]? = some .null))
          (first :: rest) rows ∧
        ((∀ row ∈ rows, t.Fills .null row) ↔ ∀ x ∈ first :: rest, t.Fills .null x.record.values)) ∧
    ∀ (ident : String) (t : Schema), OfOneModel ident t xs → xs ≠ [] →
      (∀ x ∈ xs, ∃ r, x.record = .ok r) → s.connected = true →
      ∃ sql sent, b.toSql = .ok (some sql) ∧
        Sends c s.link.1 (b.calls s.inTransaction sql) sent (done.1.map fun _ => ())
          done.2.link.1 ∧
        done.2.link.2 = s.link.2 ++ sent := by
  intro b done
  constructor
  · intro sent htrace call hcall hbegin hcommit
    rcases Insert.commit_cases c.traced s b with hsame | ⟨hs, herror, sql, hsql⟩
    · -- nothing was sent
      rw [show done.2 = s from hsame] at htrace
      obtain rfl : sent = [] := List.self_eq_append_right.1 htrace
      contradiction
    · obtain ⟨sent', hsends, htrace'⟩ := Insert.sends_commit c hs herror hsql
      obtain rfl : sent = sent' := List.append_cancel_left (htrace.symm.trans htrace')
      rw [Insert.mem_calls (hsends.mem hcall) hbegin hcommit, ← Insert.ofItems_items s.dialect xs]
      exact Insert.read_nulls hsql
  · intro ident t hone hne hrecords hs
    obtain ⟨herror, sql, hsql⟩ := hone.stated hne hrecords s.dialect
    obtain ⟨sent, hsends, htrace⟩ := Insert.sends_commit c hs herror hsql
    exact ⟨sql, sent, hsql, hsends, htrace⟩

namespace Sample

def guests : Schema where
  table := "guests"
  columns := [
    { name := "id", type := .primaryKey .plainInteger true, nullable := false },
    { name := "name", type := .plainString, nullable := false }]

def nameless : Record := .empty guests

def guest : Record where
  schema := guests
  values := [.null, .text "NULL"]
  length_values := rfl

def arrivals (rs : List Record) : List Entity := rs.map (Model.ofSchema "Guest" guests).entity

def door : Session (Script × List Call) where
  dialect := .sqlite
  link := ({}, [])
  connected := true

theorem guest_built : guest.Built :=
  .set (.empty guests) (rfl : nameless.set "name" (.text "NULL") = .ok guest)

theorem guest_fills : guests.Fills .null guest.values := by
  intro i c hc hrequired
  match i with
  | 0 =>
    cases hc
    exact nomatch hrequired.2
  | 1 => exact nofun
  | i + 2 => exact nofun

theorem guest_inserted :
    OfOneModel "Guest" guests (arrivals [guest]) ∧
    let b := Insert.ofItems .sqlite (arrivals [guest])
    let done := b.commit Script.connection.traced door
    ∃ sql rows, ⟨.fetchAll, sql⟩ ∈ done.2.link.2 ∧
      Sends Script.connection {} (b.calls false sql) done.2.link.2 (.ok ()) done.2.link.1 ∧
      Command.read? sql = some (.insert "guests" ["id", "name"] rows (some "id")) ∧
      ∀ row ∈ rows, guests.Fills .null row := by
  have hone : OfOneModel "Guest" guests (arrivals [guest]) := by
    intro x hx
    obtain rfl := List.mem_singleton.1 hx
    refine ⟨rfl, fun r hr => ?_⟩
    cases hr
    exact ⟨rfl, guest_built⟩
  refine ⟨hone, ?_⟩
  intro b done
  obtain ⟨hnulls, hsent⟩ := nulls_sent Script.connection door (arrivals [guest])
  obtain ⟨sql, sent, hsql, hsends, htrace⟩ := hsent "Guest" guests hone (List.cons_ne_nil _ _)
    (fun x hx => ⟨guest, by rw [List.mem_singleton.1 hx]; rfl⟩) rfl
  obtain rfl : done.2.link.2 = sent := htrace
  have hcall : (⟨.fetchAll, sql⟩ : Call) ∈ done.2.link.2 := by
    obtain rfl : sql = _ := Option.some.inj (Except.ok.inj (hsql.symm.trans rfl))
    exact List.mem_cons_of_mem _ (List.mem_cons_self ..)
  obtain ⟨first, rest, rows, hitems, hread, -, hfills⟩ :=
    hnulls done.2.link.2 rfl _ hcall (by simp [Call.begin]) (by simp [Call.commit])
  cases hitems
  refine ⟨sql, rows, hcall, hsends, hread, hfills.2 fun x hx => ?_⟩
  rw [List.mem_singleton.1 hx]
  exact guest_fills

/-- A nameless record is stored without a name. -/
theorem nameless_inserted :
    nameless.Built ∧
    let done := (Insert.ofItems .sqlite (arrivals [nameless])).commit Script.connection.traced door
    let sql := "INSERT INTO \"guests\" (\"id\", \"name\") VALUES (NULL, NULL) RETURNING \"id\";"
    done.1 = .ok (some []) ∧ done.2.link.2 = [.begin, ⟨.fetchAll, sql⟩, .commit] ∧
      Command.read? sql = some (.insert "guests" ["id", "name"] [[.null, .null]] (some "id")) ∧
      ¬ guests.Fills .null [Literal.null, .null] := by
  refine ⟨.empty guests, ?_⟩
  intro done sql
  refine ⟨rfl, rfl, by decide +kernel, ?_⟩
  exact fun h => h 1 _ rfl ⟨rfl, rfl⟩ rfl

end Sample

end RecordMapper
