import RecordMapper.Builder.Insert
import RecordMapper.Proofs.Except
import RecordMapper.Proofs.Record.Rows
import RecordMapper.Proofs.Sql.Statements

namespace RecordMapper

open Sql

/-- What remains of a record that was stored. -/
def Record.kept (r : Record) : Record where
  schema := r.schema
  values := r.values.map Value.kept
  length_values := by rw [List.length_map, r.length_values]

def Record.literals (d : Dialect) (r : Record) : List Literal :=
  (r.schema.columns.zip r.values).map fun p => p.1.type.written d p.2

/-- What a driver reports of the literals of a row. -/
def reportRow? (how : Reporting) : List Column → List Literal → Option Row
  | [], [] => some []
  | c :: columns, l :: row => do
    return (← l.report? how c.type) :: (← reportRow? how columns row)
  | _, _ => none

theorem reportRow_written (d : Dialect) (how : Reporting) {columns : List Column}
    {values : List Value} (h : List.Forall₂ Column.Holds columns values) :
    ∃ row : List (Value × Value),
      reportRow? how columns ((columns.zip values).map fun p => p.1.type.written d p.2) =
        some (row.map Prod.fst) ∧
      row.map Prod.snd = values.map Value.kept ∧
      List.Forall₂ (fun c p => c.type.coerce p.1 = .ok p.2 ∧ c.Holds p.2) columns row := by
  induction h with
  | nil => exact ⟨[], rfl, rfl, .nil⟩
  | @cons c v columns values hv _ ih =>
    obtain ⟨row, hreport, hkept, hrow⟩ := ih
    obtain ⟨sql, hsql⟩ := ColumnType.literal_of_suits d hv.suits
    obtain ⟨w, hw, hcoerce⟩ := ColumnType.carries_written hsql how
    refine ⟨(w, v.kept) :: row, ?_, by simp [hkept], .cons ⟨hcoerce, hv.kept⟩ hrow⟩
    simp [reportRow?, hw, hreport]

namespace Insert

theorem rowSql_spells (d : Dialect) {r : Record}
    (h : List.Forall₂ Column.Holds r.schema.columns r.values) :
    ∃ texts, rowSql d r.schema r = .ok texts ∧
      List.Forall₂ (fun text l => Spells text.toList l.tokens) texts (r.literals d) := by
  refine mapM_eq_ok fun p hp => ?_
  have hsuits := ((List.forall₂_iff_zip.1 h).2 hp).suits
  obtain ⟨sql, hsql⟩ := ColumnType.literal_of_suits d hsuits
  exact ⟨sql, hsql, ColumnType.spells_literal hsql⟩

theorem addAll_records (b : Insert) (ident : String) (s : Schema) (rs : List Record) :
    b.addAll (rs.map (Model.ofSchema ident s).entity) =
      { b with items := b.items ++ rs.map (InsertItem.mk ident) } := by
  induction rs generalizing b with
  | nil => simp [addAll]
  | cons r rs ih =>
    have hadd : b.add ((Model.ofSchema ident s).entity r) =
        { b with items := b.items ++ [⟨ident, r⟩] } := rfl
    have hrest := ih (b.add ((Model.ofSchema ident s).entity r))
    rw [hadd] at hrest
    simpa [addAll, hadd] using hrest

theorem toSql_of_rows {d : Dialect} {ident : String} {r : Record} {rs : List Record}
    {rows : List (List String)}
    (h : (r :: rs).mapM (fun item => rowSql d r.schema item) = .ok rows) :
    ({ dialect := d, items := (r :: rs).map (InsertItem.mk ident) } : Insert).toSql =
      .ok (some (Statement.insert r.schema.table r.schema.columnNames rows
        (r.schema.primaryKey?.map Column.name))) := by
  -- all items have one model, so none is refused for another
  have hsame : ((r :: rs).map (InsertItem.mk ident)).find? (fun item => item.ident ≠ ident) =
      none := by simp
  have hrows : ((r :: rs).map (InsertItem.mk ident)).mapM
      (fun item => rowSql d r.schema item.record) = .ok rows := by
    rw [List.mapM_map]
    exact h
  simp only [List.map_cons] at hsame hrows
  simp only [toSql, List.map_cons, hsame, hrows, bind, Except.bind, pure, Except.pure]

/-- A batch of whole records is one insertion with a row for each of them, and each record comes
back from its row, whatever way the row is reported. -/
theorem toSql_comes_back (d : Dialect) (ident : String) {s : Schema} (hs : s.columnNames.Nodup)
    {rs : List Record} (hne : rs ≠ [])
    (hrs : ∀ r ∈ rs, r.schema = s ∧ r.Built ∧ r.Complete) :
    ∃ sql rows,
      (({ dialect := d } : Insert).addAll (rs.map (Model.ofSchema ident s).entity)).toSql =
        .ok (some sql) ∧
      Command.read? sql =
        some (.insert s.table s.columnNames rows (s.primaryKey?.map Column.name)) ∧
      List.Forall₂ (fun r row => ∀ how, ∃ values,
        reportRow? how s.columns row = some values ∧ Record.ofRow s values = .ok r.kept)
        rs rows := by
  obtain ⟨first, rest, rfl⟩ := List.exists_cons_of_ne_nil hne
  obtain rfl : first.schema = s := (hrs first (List.mem_cons_self ..)).1
  have hholds : ∀ r ∈ first :: rest, r.schema = first.schema ∧
      List.Forall₂ Column.Holds r.schema.columns r.values := fun r hr =>
    ⟨(hrs r hr).1, (hrs r hr).2.1.holds (hrs r hr).2.2⟩
  obtain ⟨texts, htexts, hspells⟩ : ∃ texts,
      (first :: rest).mapM (fun r => rowSql d first.schema r) = .ok texts ∧
      List.Forall₂ (List.Forall₂ fun text l => Spells text.toList l.tokens) texts
        ((first :: rest).map (Record.literals d)) := by
    refine mapM_eq_ok fun r hr => ?_
    rw [← (hholds r hr).1]
    exact rowSql_spells d (hholds r hr).2
  rw [addAll_records]
  refine ⟨_, (first :: rest).map (Record.literals d), toSql_of_rows htexts, ?_, ?_⟩
  · exact (spells_insert _ _ _ hspells).command (insert_read _ _ (by simp) _)
  · rw [List.forall₂_map_right_iff, List.forall₂_same]
    intro r hr how
    obtain ⟨hschema, hvalues⟩ := hholds r hr
    obtain ⟨row, hreport, hkept, hrow⟩ := reportRow_written d how hvalues
    rw [← hschema] at hs ⊢
    obtain ⟨back, hback, hback_schema, hback_values⟩ := Record.ofRow_eq_ok hs hrow
    have heq : back = r.kept := Record.eq_of_values hback_schema (hback_values.trans hkept)
    exact ⟨row.map Prod.fst, hreport, heq ▸ hback⟩

end Insert

namespace Sample

def diary : Schema where
  table := "we\"ird t"
  columns := [
    { name := "i\"d", type := .primaryKey .plainInteger true },
    { name := "it's, here); --", type := .plainString, nullable := false },
    { name := "on", type := .plainBoolean },
    { name := "at", type := .plainDatetime }]

def leapSecond : Timestamp where
  date := ⟨-5, 12, 31, by decide, by decide, by decide, by decide, by decide, by decide⟩
  hour := 23
  minute := 59
  second := 59
  nanosecond := 1999999999
  hour_lt := by decide
  minute_lt := by decide
  second_lt := by decide
  nanosecond_lt := by decide

def entry : Record where
  schema := diary
  values := [.null, .text "'); DROP TABLE \"t\"; --\n''", .boolean true, .timestamp leapSecond]
  length_values := rfl

def bareEntry : Record where
  schema := diary
  values := [.integer Int64.minValue, .text "", .null, .null]
  length_values := rfl

theorem entry_built : entry.Built := .ofRow (rfl : Record.ofRow diary entry.values = .ok entry)

theorem bareEntry_built : bareEntry.Built :=
  .ofRow (rfl : Record.ofRow diary bareEntry.values = .ok bareEntry)

theorem diary_comes_back :
    diary.columnNames.Nodup ∧ entry.Complete ∧ bareEntry.Complete ∧
    ∃ sql rows,
      (({ dialect := .postgres } : Insert).addAll
        ([entry, bareEntry].map (Model.ofSchema "Diary" diary).entity)).toSql = .ok (some sql) ∧
      Command.read? sql = some (.insert "we\"ird t"
        ["i\"d", "it's, here); --", "on", "at"] rows (some "i\"d")) ∧
      List.Forall₂ (fun r row => ∀ how, ∃ values,
        reportRow? how diary.columns row = some values ∧ Record.ofRow diary values = .ok r.kept)
        [entry, bareEntry] rows := by
  refine ⟨by decide, by decide, by decide, ?_⟩
  refine Insert.toSql_comes_back .postgres "Diary" (s := diary) (by decide) (by simp) fun r hr => ?_
  rcases List.mem_pair.1 hr with rfl | rfl
  · exact ⟨rfl, entry_built, by decide⟩
  · exact ⟨rfl, bareEntry_built, by decide⟩

def late : Schema where
  table := "late"
  columns := [{ name := "at", type := .plainDatetime }]

def lateEntry (t : Timestamp) : Record := ⟨late, [.timestamp t], rfl⟩

/-- A record whose timestamp comes back as another one. -/
theorem lateEntry_altered :
    late.columnNames.Nodup ∧ (lateEntry straggler).Built ∧ (lateEntry straggler).Complete ∧
    ∃ sql row values,
      (({ dialect := .sqlite } : Insert).addAll
        [(Model.ofSchema "Late" late).entity (lateEntry straggler)]).toSql = .ok (some sql) ∧
      Command.read? sql = some (.insert "late" ["at"] [row] none) ∧
      reportRow? .stored late.columns row = some values ∧
      (Record.ofRow late values).map Record.values = .ok [.timestamp stragglerShown] ∧
      stragglerShown ≠ straggler.toMicros :=
  ⟨by decide, .ofRow (rfl : Record.ofRow late [.timestamp straggler] = .ok _), by decide,
    "INSERT INTO \"late\" (\"at\") VALUES ('2024-01-02 23:56:05.333333');",
    [.text "2024-01-02 23:56:05.333333"], [.text "2024-01-02 23:56:05.333333"],
    by decide +kernel, by decide +kernel, by decide +kernel, by decide +kernel,
    by decide +kernel⟩

end Sample

end RecordMapper
