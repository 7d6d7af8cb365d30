import RecordMapper.Migration
import RecordMapper.Proofs.Builder.Insert
import RecordMapper.Proofs.Except
import RecordMapper.Proofs.Sql.Definitions

namespace RecordMapper

open Sql Token

theorem rel_imp {α β : Type} {R S : α → β → Prop} (h : ∀ a b, R a b → S a b) {a : Option α}
    {b : Option β} (hab : Option.Rel R a b) : Option.Rel S a b := by
  cases hab with
  | some hab => exact .some (h _ _ hab)
  | none => exact .none

namespace ColumnType

def counter? (d : Dialect) : ColumnType → Option String
  | primaryKey inner autoincrement => if autoincrement then d.autoincrement? else inner.counter? d
  | _ => none

def typeName (d : Dialect) (t : ColumnType) : String := (t.counter? d).getD (t.keyword d)

def declared? : ColumnType → Option Default
  | primaryKey inner _ => inner.declared?
  | t => t.default?

def said? (d : Dialect) (t : ColumnType) : Option Default :=
  if (t.counter? d).isSome then none else t.declared?

def keys : ColumnType → Nat
  | primaryKey inner _ => inner.keys + 1
  | _ => 0

/-- Whether a literal stands for a default of the type. -/
inductive Denotes (t : ColumnType) : Default → Literal → Prop
  | literal {v : Value} {l : Literal} : l.Carries t v → Denotes t (.literal v) l
  | now : Denotes t .now .now

theorem counter_of_isInteger {t : ColumnType} (h : t.isInteger = true) (d : Dialect) :
    t.counter? d = none := by
  cases t with
  | integer default => rfl
  | _ => contradiction

theorem counter_sqlite (t : ColumnType) : t.counter? .sqlite = none := by
  induction t with
  | primaryKey inner autoincrement ih =>
    rw [counter?, ih]
    exact ite_self none
  | _ => rfl

theorem keys_of_isInteger {t : ColumnType} (h : t.isInteger = true) : t.keys = 0 := by
  cases t with
  | integer default => rfl
  | _ => contradiction

theorem keys_ne_zero (t : ColumnType) : (t.keys != 0) = t.isPrimaryKey := by
  cases t <;> rfl

theorem isAutoincrement_of_default {t : ColumnType} {x : Default} (h : t.default? = some x) :
    t.isAutoincrement = false := by
  cases t with
  | primaryKey inner autoincrement => contradiction
  | _ => rfl

theorem typeName_word {w : String}
    (h : w ∈ ["INT", "INTEGER", "BOOLEAN", "TIMESTAMP", "TEXT", "SERIAL"]) :
    TypeName w [word w] := by
  refine .bare ?_
  revert w
  decide

theorem exists_typeName (d : Dialect) (t : ColumnType) : ∃ ts, TypeName (t.keyword d) ts := by
  induction t with
  | primaryKey inner autoincrement ih => exact ih
  | boolean default =>
    cases d <;> exact ⟨_, typeName_word (by simp [keyword, Dialect.booleanColumn])⟩
  | integer default =>
    cases d <;> exact ⟨_, typeName_word (by simp [keyword, Dialect.integerColumn])⟩
  | string length default =>
    cases d with
    | postgres => exact ⟨_, .sized (w := "VARCHAR") length (by decide)⟩
    | sqlite => exact ⟨_, typeName_word (by simp [keyword, Dialect.stringColumn])⟩
  | datetime default =>
    cases d <;> exact ⟨_, typeName_word (by simp [keyword, Dialect.timestampColumn])⟩

theorem typeName_counter {d : Dialect} {w : String} (h : d.autoincrement? = some w) :
    TypeName w [word w] := by
  cases d with
  | postgres =>
    cases h
    exact typeName_word (by decide)
  | sqlite => contradiction

theorem written_ne_default (d : Dialect) (v : Value) : d.written v ≠ .default := by
  cases v <;> cases d <;> nofun

theorem carries_default {t : ColumnType} {v : Value} (hdefault : t.default? = some (.literal v))
    (hv : v = .null ∨ t.validate v = true) (d : Dialect) : (d.written v).Carries t v := by
  obtain ⟨sql, hsql⟩ := t.literal_of_suits d hv
  have hcarries := carries_written hsql
  rwa [written, isAutoincrement_of_default hdefault, Bool.and_false,
    if_neg Bool.false_ne_true] at hcarries

theorem spells_default {t : ColumnType} {x : Default} (hdefault : t.default? = some x)
    (hx : ∀ v, x = .literal v → v = .null ∨ t.validate v = true) (d : Dialect) :
    ∃ l ts, DefaultClause (some l) (word "DEFAULT" :: ts) ∧ t.Denotes x l ∧
      Spells (x.sql d).toList ts := by
  cases x with
  | literal v =>
    have hv := hx v rfl
    refine ⟨d.written v, _, .literal (written_ne_default d v),
      .literal (carries_default hdefault hv d), ?_⟩
    rcases hv with rfl | hv
    · exact d.spells_null
    · exact Dialect.spells_literal hv
  | now =>
    cases d with
    | postgres =>
      have hword : Spells "now".toList [word "now"] := spells_word (by decide)
      exact ⟨.now, _, .call, .now, hword.append spells_nil.parenthesised (apart_cons.2 rfl)⟩
    | sqlite => exact ⟨.now, _, .literal nofun, .now, spells_word (by decide)⟩

theorem spells_defaultClause {d : Dialect} {t : ColumnType} {text : String}
    (h : t.defaultClause d = .ok text) :
    ∃ default ts, DefaultClause default ts ∧ Option.Rel t.Denotes t.default? default ∧
      Apart text.toList ∧ Spells text.toList ts := by
  have hword : Spells "DEFAULT".toList [word "DEFAULT"] := spells_word (by decide)
  have hclause : ∀ x, t.default? = some x →
      (∀ v, x = .literal v → v = .null ∨ t.validate v = true) →
      text = " " ++ Keyword.default ++ " " ++ x.sql d →
      ∃ default ts, DefaultClause default ts ∧ Option.Rel t.Denotes (some x) default ∧
        Apart text.toList ∧ Spells text.toList ts := by
    rintro x hdefault hx rfl
    obtain ⟨l, ts, hclause, hdenotes, hspells⟩ := spells_default hdefault hx d
    have htext : (" " ++ Keyword.default ++ " " ++ x.sql d).toList =
        ' ' :: ("DEFAULT".toList ++ ' ' :: (x.sql d).toList) := by simp [Keyword.default]
    rw [htext]
    exact ⟨some l, _, hclause, .some hdenotes, apart_cons.2 rfl, (hword.blank hspells).afterBlank⟩
  rw [defaultClause] at h
  cases hdefault : t.default? with
  | none =>
    rw [hdefault] at h
    cases h
    exact ⟨none, [], .absent, .none, apart_nil, spells_nil⟩
  | some x =>
    rw [hdefault] at h
    cases x with
    | literal v =>
      simp only at h
      split at h
      · rename_i hv
        refine hclause _ hdefault (fun w hw => ?_) (Except.ok.inj h).symm
        cases hw
        simpa using hv
      · contradiction
    | now => exact hclause _ hdefault (fun _ habsurd => nomatch habsurd) (Except.ok.inj h).symm

structure Spelled (d : Dialect) (t : ColumnType) (text : String) (default : Option Literal)
    (ts us : List Token) : Prop where
  type : TypeName (t.typeName d) ts
  clause : DefaultClause default us
  default : Option.Rel t.Denotes (t.said? d) default
  spells : Spells text.toList (ts ++ (us ++ keyTokens t.keys))

theorem spelled_plain {d : Dialect} {t : ColumnType} (ht : t.isPrimaryKey = false) {text : String}
    (h : t.sql d = .ok text) : ∃ default ts us, Spelled d t text default ts us := by
  obtain ⟨clause, hclause, rfl⟩ : ∃ clause, t.defaultClause d = .ok clause ∧
      text = t.keyword d ++ clause := by
    cases t with
    | primaryKey inner autoincrement => contradiction
    | _ =>
      obtain ⟨clause, hclause, hreturn⟩ := except_bind_eq_ok h
      exact ⟨clause, hclause, (Except.ok.inj hreturn).symm⟩
  obtain ⟨ts, hts⟩ := t.exists_typeName d
  obtain ⟨default, us, hus, hdefault, hapart, hspells⟩ := spells_defaultClause hclause
  have hplain : t.counter? d = none ∧ t.declared? = t.default? ∧ t.keys = 0 := by
    cases t with
    | primaryKey inner autoincrement => contradiction
    | _ => exact ⟨rfl, rfl, rfl⟩
  obtain ⟨hcounter, hdeclared, hkeys⟩ := hplain
  refine ⟨default, ts, us, ?_, hus, ?_, ?_⟩
  · rwa [typeName, hcounter]
  · rwa [said?, hcounter, hdeclared]
  · rw [hkeys]
    simpa [keyTokens] using hts.spells.append hspells hapart

theorem sql_key {d : Dialect} {inner : ColumnType} {autoincrement : Bool} {text : String}
    (h : (primaryKey inner autoincrement).sql d = .ok text) :
    ∃ head, text = head ++ " " ++ Keyword.primaryKey ∧
      (autoincrement = true ∧ inner.isInteger = true ∧ d.autoincrement? = some head ∨
        inner.sql d = .ok head ∧
          (primaryKey inner autoincrement).counter? d = inner.counter? d) := by
  cases autoincrement with
  | false =>
    obtain ⟨head, hhead, hreturn⟩ := except_bind_eq_ok h
    exact ⟨head, (Except.ok.inj hreturn).symm, .inr ⟨hhead, rfl⟩⟩
  | true =>
    rw [sql] at h
    split at h
    · contradiction
    rename_i hcounted
    have hinteger : inner.isInteger = true := by simpa using hcounted
    cases hword : d.autoincrement? with
    | some w =>
      rw [hword] at h
      exact ⟨w, (Except.ok.inj h).symm, .inl ⟨rfl, hinteger, rfl⟩⟩
    | none =>
      rw [hword] at h
      obtain ⟨head, hhead, hreturn⟩ := except_bind_eq_ok h
      refine ⟨head, (Except.ok.inj hreturn).symm, .inr ⟨hhead, ?_⟩⟩
      rw [counter?, if_pos rfl, hword, counter_of_isInteger hinteger]

theorem Denotes.key {inner : ColumnType} {x : Default} {l : Literal} (h : inner.Denotes x l)
    (autoincrement : Bool) : (primaryKey inner autoincrement).Denotes x l := by
  cases h with
  | literal hcarries => exact .literal hcarries
  | now => exact .now

theorem exists_spelled {d : Dialect} {t : ColumnType} {text : String} (h : t.sql d = .ok text) :
    ∃ default ts us, Spelled d t text default ts us := by
  induction t generalizing text with
  | primaryKey inner autoincrement ih =>
    have hkey : Spells " PRIMARY KEY".toList [word "PRIMARY", word "KEY"] :=
      ((spells_word (w := "PRIMARY") (by decide)).blank
        (spells_word (w := "KEY") (by decide))).afterBlank
    obtain ⟨head, rfl, ⟨rfl, hinteger, hword⟩ | ⟨hhead, hcounter⟩⟩ := sql_key h
    · have hname := typeName_counter hword
      have hcounter : (primaryKey inner true).counter? d = some head := hword
      refine ⟨none, [word head], [], ?_, .absent, ?_, ?_⟩
      · rwa [typeName, hcounter]
      · rw [said?, hcounter]
        exact .none
      · rw [keys, keys_of_isInteger hinteger]
        simpa [keyTokens, Keyword.primaryKey] using
          hname.spells.append hkey (apart_cons.2 (by decide))
    · obtain ⟨default, ts, us, hspelled⟩ := ih hhead
      refine ⟨default, ts, us, ?_, hspelled.clause, ?_, ?_⟩
      · rw [typeName, hcounter]
        exact hspelled.type
      · have hdefault := hspelled.default
        rw [said?, hcounter]
        exact rel_imp (fun _ _ h => h.key autoincrement) hdefault
      · rw [keys, keyTokens_succ]
        simpa [Keyword.primaryKey] using hspelled.spells.append hkey (apart_cons.2 (by decide))
  | _ => exact spelled_plain rfl h

end ColumnType

/-- Whether a definition says of a column what the column is. -/
structure Column.Says (d : Dialect) (col : Column) (c : ColumnDefinition) : Prop where
  name : c.name = col.name
  type : c.type = col.type.typeName d
  default : Option.Rel col.type.Denotes (col.type.said? d) c.default
  keys : c.keys = col.type.keys
  isKey : c.isKey = col.isPrimaryKey
  unique : c.unique = (col.unique && d.inlineUnique)
  notNull : c.notNull = (!col.nullable && !col.isPrimaryKey)

theorem spells_marks {cs : List Char} {ts : List Token} (h : Spells cs ts)
    (unique notNull : Bool) :
    Spells
      (cs ++ (if unique then " UNIQUE" else "").toList ++
        (if notNull then " " ++ Keyword.notNull else "").toList)
      (ts ++ markTokens unique notNull) := by
  have hunique : Spells "UNIQUE".toList [word "UNIQUE"] := spells_word (by decide)
  have hnotNull : Spells "NOT NULL".toList [word "NOT", word "NULL"] :=
    (spells_word (w := "NOT") (by decide)).blank (spells_word (w := "NULL") (by decide))
  cases unique with
  | false =>
    cases notNull with
    | false => simpa [markTokens] using h
    | true => simpa [markTokens, Keyword.notNull] using h.blank hnotNull
  | true =>
    cases notNull with
    | false => simpa [markTokens] using h.blank hunique
    | true => simpa [markTokens, Keyword.notNull] using (h.blank hunique).blank hnotNull

def Sql.Describes (text : String) (c : ColumnDefinition) : Prop :=
  ∃ ts, Defines c ts ∧ Spells text.toList ts

theorem Column.exists_says {d : Dialect} {col : Column} {text : String}
    (h : col.sql d = .ok text) : ∃ c, col.Says d c ∧ Describes text c := by
  obtain ⟨type, htype, hreturn⟩ := except_bind_eq_ok h
  obtain ⟨default, ts, us, hspelled⟩ := ColumnType.exists_spelled htype
  let unique := col.unique && d.inlineUnique
  let notNull := !col.nullable && !col.isPrimaryKey
  let c : ColumnDefinition := {
    name := col.name, type := col.type.typeName d, default, keys := col.type.keys, unique,
    notNull }
  have hspells := spells_marks ((spells_name col.name).blank hspelled.spells) unique notNull
  refine ⟨c, ⟨rfl, rfl, hspelled.default, rfl, col.type.keys_ne_zero, rfl, rfl⟩,
    columnTokens col.name ts us col.type.keys unique notNull,
    ⟨column_read hspelled.type hspelled.clause _ _ _, ⟨_, rfl⟩,
      column_together hspelled.type hspelled.clause _ _ _⟩, ?_⟩
  rw [← Except.ok.inj hreturn]
  simpa [columnTokens, unique, notNull] using hspells

theorem exists_columns {d : Dialect} {cols : List Column} {texts : List String}
    (h : List.Forall₂ (fun col text => col.sql d = .ok text) cols texts) :
    ∃ cs, List.Forall₂ (Column.Says d) cols cs ∧ List.Forall₂ Describes texts cs :=
  exists_between (h.imp fun _ _ => Column.exists_says)

theorem Column.names_of_says {d : Dialect} {cols : List Column} {cs : List ColumnDefinition}
    (h : List.Forall₂ (Column.Says d) cols cs) :
    cs.map ColumnDefinition.name = cols.map Column.name := by
  induction h with
  | nil => rfl
  | cons hc _ ih => rw [List.map_cons, List.map_cons, hc.name, ih]

def ForeignKey.definition (fk : ForeignKey) : ForeignKeyDefinition where
  name := fk.name
  column := fk.keyColumn
  parentTable := fk.parentTable
  parentColumns := fk.parentColumns
  onDelete := fk.onDelete
  onUpdate := fk.onUpdate

theorem spells_action (action : ReferentialAction) :
    Spells action.sql.toList (actionTokens action) := by
  have hset : Spells "SET".toList [word "SET"] := spells_word (by decide)
  cases action with
  | cascade => exact spells_word (by decide)
  | restrict => exact spells_word (by decide)
  | setNull => exact hset.blank (spells_word (w := "NULL") (by decide))
  | setDefault => exact hset.blank (spells_word (w := "DEFAULT") (by decide))
  | noAction =>
    exact (spells_word (w := "NO") (by decide)).blank (spells_word (w := "ACTION") (by decide))

theorem Sql.Spells.on {cs : List Char} {ts : List Token} (h : Spells cs ts) (event : String)
    (hevent : isWord event.toList = true) (action : Option ReferentialAction) :
    Spells (cs ++ (ForeignKey.actionClause event action).toList) (ts ++ onTokens event action) := by
  cases action with
  | none => simpa [ForeignKey.actionClause, onTokens] using h
  | some action =>
    have hon : Spells "ON".toList [word "ON"] := spells_word (by decide)
    simpa [ForeignKey.actionClause, onTokens] using
      h.blank ((hon.blank (spells_word hevent)).blank (spells_action action))

theorem ForeignKey.spells (fk : ForeignKey) :
    Spells fk.sql.toList (foreignKeyTokens fk.definition) := by
  have hconstraint : Spells "CONSTRAINT".toList [word "CONSTRAINT"] := spells_word (by decide)
  have hkey : Spells "FOREIGN KEY".toList [word "FOREIGN", word "KEY"] :=
    (spells_word (w := "FOREIGN") (by decide)).blank (spells_word (w := "KEY") (by decide))
  have hreferences : Spells "REFERENCES".toList [word "REFERENCES"] := spells_word (by decide)
  have hhead := ((((((hconstraint.blank (spells_name fk.name)).blank hkey).blank
    (spells_name fk.keyColumn).parenthesised).blank hreferences).blank
    (spells_name fk.parentTable)).blank (spells_nameList fk.parentColumns).parenthesised)
  have hall := (hhead.on "DELETE" (by decide) fk.onDelete).on "UPDATE" (by decide) fk.onUpdate
  unfold ForeignKey.sql foreignKeyTokens
  simpa [ForeignKey.definition] using hall

theorem Sql.read_createTable (table : String) {texts : List String} {cs : List ColumnDefinition}
    (h : List.Forall₂ Describes texts cs) (foreignKeys : List ForeignKey) :
    Command.read? (Statement.createTable table texts true (foreignKeys.map ForeignKey.sql)) =
      some (.createTable
        { name := table, columns := cs, foreignKeys := foreignKeys.map ForeignKey.definition }
        true) := by
  obtain ⟨columns, hspells, hdefines⟩ : ∃ columns,
      List.Forall₂ (fun text ts => Spells text.toList ts) texts columns ∧
      List.Forall₂ Defines cs columns :=
    exists_between (h.imp fun _ _ hc => hc.imp fun _ hts => hts.symm)
  have hcreate : Spells "CREATE TABLE".toList [word "CREATE", word "TABLE"] :=
    (spells_word (w := "CREATE") (by decide)).blank (spells_word (w := "TABLE") (by decide))
  have hexists : Spells "IF NOT EXISTS".toList [word "IF", word "NOT", word "EXISTS"] :=
    ((spells_word (w := "IF") (by decide)).blank (spells_word (w := "NOT") (by decide))).blank
      (spells_word (w := "EXISTS") (by decide))
  have hkeys : List.Forall₂ (fun text ts => Spells text.toList ts)
      (foreignKeys.map ForeignKey.sql)
      ((foreignKeys.map ForeignKey.definition).map foreignKeyTokens) := by
    rw [List.map_map, List.forall₂_map_left_iff, List.forall₂_map_right_iff]
    exact List.forall₂_same.2 fun fk _ => fk.spells
  have hlist := spells_commaList (List.rel_append hspells hkeys)
  have hall := (((hcreate.blank hexists).blank (spells_name table)).blank
    hlist.parenthesised).semicolon
  refine Spells.command ?_ (table_read table hdefines _)
  unfold Statement.createTable tableTokens
  simpa [Keyword.ifNotExists] using hall

theorem Sql.Describes.read_addColumn {text : String} {c : ColumnDefinition} (h : Describes text c)
    (table : String) :
    Command.read? (Statement.addColumn table text) = some (.addColumn table c) := by
  obtain ⟨ts, hdefines, hspells⟩ := h
  exact Sql.read_addColumn table hspells hdefines.read

theorem exists_texts {d : Dialect} {cols : List Column}
    (h : ∀ col ∈ cols, ∃ text, col.sql d = .ok text) :
    ∃ texts, List.Forall₂ (fun col text => Column.sql d col = .ok text) cols texts := by
  obtain ⟨texts, -, htexts⟩ := mapM_eq_ok (f := Column.sql d) (g := id)
    (R := fun text col => Column.sql d col = .ok text) fun col hcol =>
      (h col hcol).imp fun text htext => ⟨htext, htext⟩
  rw [List.map_id] at htexts
  exact ⟨texts, htexts.flip⟩

/-- If every column has a definition, then so has the table, and what creates it is read as a table
of its name, with one definition for each column and for each foreign key, in their order. -/
theorem createTableSql_read (d : Dialect) {s : Schema}
    (h : ∀ col ∈ s.columns, ∃ text, col.sql d = .ok text) :
    ∃ sql columns, Migration.createTableSql d s = .ok sql ∧
      List.Forall₂ (Column.Says d) s.columns columns ∧
      Command.read? sql = some (.createTable
        { name := s.table, columns, foreignKeys := s.foreignKeys.map ForeignKey.definition }
        true) := by
  obtain ⟨texts, htexts⟩ := exists_texts h
  obtain ⟨cs, hsays, hdescribes⟩ := exists_columns htexts
  refine ⟨_, cs, ?_, hsays, read_createTable s.table hdescribes s.foreignKeys⟩
  rw [Migration.createTableSql, mapM_of_forall₂ htexts]
  rfl

namespace Sample

def tangle : Schema where
  table := "t\" (\"id\" INT);"
  columns := [
    { name := "id", type := .primaryKey .plainInteger true, nullable := false },
    { name := "a, b) NOT NULL", type := .string 12 (some (.literal (.text "it's, \"(x)\" --"))),
      unique := true, nullable := false },
    { name := "UNIQUE", type := .boolean (some (.literal (.boolean false))), unique := true },
    { name := "at", type := .primaryKey (.datetime (some .now)) false },
    { name := "since", type := .datetime (some (.literal (.timestamp leapSecond))) }]
  foreignKeys := [{
    name := "fk \"1\""
    keyColumn := "a, b) NOT NULL"
    parentTable := "p (q)"
    parentKeyColumns := " id ,, ON DELETE, \"c\""
    onDelete := some .setNull }]

theorem tangle_worded : ∀ col ∈ tangle.columns, ∃ text, col.sql .postgres = .ok text := by
  simp only [tangle, List.forall_mem_cons, List.not_mem_nil, false_implies, implies_true, and_true]
  exact ⟨⟨_, rfl⟩, ⟨_, rfl⟩, ⟨_, rfl⟩, ⟨_, rfl⟩, ⟨_, rfl⟩⟩

theorem tangle_read :
    (∀ col ∈ tangle.columns, ∃ text, col.sql .postgres = .ok text) ∧
    ∃ sql columns, Migration.createTableSql .postgres tangle = .ok sql ∧
      List.Forall₂ (Column.Says .postgres) tangle.columns columns ∧
      Command.read? sql = some (.createTable
        { name := "t\" (\"id\" INT);"
          columns
          foreignKeys := [{
            name := "fk \"1\""
            column := "a, b) NOT NULL"
            parentTable := "p (q)"
            parentColumns := ["id", "ON DELETE", "\"c\""]
            onDelete := some .setNull }] }
        true) := by
  have hkeys : tangle.foreignKeys.map ForeignKey.definition = [{
      name := "fk \"1\""
      column := "a, b) NOT NULL"
      parentTable := "p (q)"
      parentColumns := ["id", "ON DELETE", "\"c\""]
      onDelete := some .setNull }] := by decide +kernel
  refine ⟨tangle_worded, ?_⟩
  have hread := createTableSql_read .postgres tangle_worded
  rwa [hkeys] at hread

def lateByDefault : Schema where
  table := "late"
  columns := [{ name := "at", type := .datetime (some (.literal (.timestamp straggler))) }]

/-- A default that denotes another timestamp than the one declared. -/
theorem lateByDefault_misread :
    ∃ sql columns, Migration.createTableSql .sqlite lateByDefault = .ok sql ∧
      Command.read? sql = some (.createTable { name := "late", columns, foreignKeys := [] } true) ∧
      columns.map ColumnDefinition.default = [some (.text "2024-01-02 23:56:05.333333")] ∧
      ColumnType.plainDatetime.coerce (.text "2024-01-02 23:56:05.333333") =
        .ok (.timestamp stragglerShown) ∧
      stragglerShown ≠ straggler.toMicros :=
  ⟨"CREATE TABLE IF NOT EXISTS \"late\" (\"at\" TIMESTAMP DEFAULT '2024-01-02 23:56:05.333333');",
    [{ name := "at", type := "TIMESTAMP", default := some (.text "2024-01-02 23:56:05.333333") }],
    by decide +kernel, by decide +kernel, rfl, by decide +kernel, by decide +kernel⟩

end Sample

end RecordMapper
