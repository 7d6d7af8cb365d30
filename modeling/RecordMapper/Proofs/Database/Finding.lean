import RecordMapper.Proofs.Database.Lookup
import RecordMapper.Proofs.Migration.Definitions

namespace RecordMapper

open Sql

def Timestamp.writeSeconds (t : Timestamp) : List Char := writeDate t.date ++ ' ' :: writeClock t

namespace Database

inductive Origin
  | given
  | default
  | clock
  | counted
  deriving DecidableEq

/-- The values that statements leave in a column of a type: what it stores of a literal that is
given or is its default, the current time where that is its default, and the numbers of rows. -/
inductive Leaves (stores : ColumnDefinition → String → Value → Prop) (t : ColumnType)
    (c : ColumnDefinition) : Origin → Value → Prop
  | given : t.literal .sqlite v = .ok sql → stores c sql w → Leaves stores t c .given w
  | default : t.declared? = some (.literal v) → stores c ((Default.literal v).sql .sqlite) w →
      Leaves stores t c .default w
  | clock {m : Timestamp} : t.declared? = some .now → Timestamp.FourDigits m.date.year →
      stores c (quoteText (String.ofList m.writeSeconds)) w → Leaves stores t c .clock w
  | counted (i : Int64) : isRowNumber c = true → Leaves stores t c .counted (.integer i)

inductive Kept (t : ColumnType) : Value → Prop
  | null : Kept t .null
  | integer (i : Int64) : t.admits ≠ .text → Kept t (.integer i)
  | text (s : String) : t.admits = .text → Kept t (.text s)
  | timestamp (m : Timestamp) : t.admits = .timestamp → Kept t (.text (String.ofList m.write))

theorem affinity_of_definition {col : Column} {c : ColumnDefinition} (h : col.Says .sqlite c) :
    affinity c = .text ↔ col.type.admits = .text := by
  have hkeyword : ∀ t : ColumnType,
      Affinity.ofType (t.keyword .sqlite) = .text ↔ t.admits = .text := by
    intro t
    induction t with
    | primaryKey inner autoincrement ih => exact ih
    | _ => simp [ColumnType.keyword, ColumnType.admits, Affinity.ofType, Dialect.booleanColumn,
        Dialect.integerColumn, Dialect.stringColumn, Dialect.timestampColumn]
  rw [affinity, h.type, ColumnType.typeName, ColumnType.counter_sqlite, Option.getD_none]
  exact hkeyword col.type

theorem admits_of_isRowNumber {col : Column} {c : ColumnDefinition} (hc : col.Says .sqlite c)
    (h : isRowNumber c = true) : col.type.admits ≠ .text := by
  intro hadmits
  have htext := (affinity_of_definition hc).2 hadmits
  simp only [isRowNumber, Bool.and_eq_true, beq_iff_eq] at h
  rw [affinity, h.2] at htext
  contradiction

theorem kept_written {t : ColumnType} {v : Value} (hv : v = .null ∨ t.validate v = true) :
    Kept t (literalValue (Dialect.sqlite.written v)) := by
  rcases hv with rfl | hv
  · exact .null
  cases ColumnType.suited_of_validate hv with
  | boolean b hadmits => exact .integer _ (by simp [hadmits])
  | integer i hadmits => exact .integer _ (by simp [hadmits])
  | text s hadmits => exact .text s hadmits
  | timestamp m hadmits => exact .timestamp m hadmits

theorem plain_written {col : Column} {c : ColumnDefinition} (hc : col.Says .sqlite c) {v : Value}
    (hv : v = .null ∨ col.type.validate v = true) : Plain c (Dialect.sqlite.written v) := by
  rcases hv with rfl | hv
  · exact .null
  have hnumeric (h : col.type.admits ≠ .text) : affinity c ≠ .text :=
    fun htext => h ((affinity_of_definition hc).1 htext)
  cases ColumnType.suited_of_validate hv with
  | boolean b hadmits =>
    cases b with
    | false => exact .integer 0 (hnumeric (by simp [hadmits]))
    | true => exact .integer 1 (hnumeric (by simp [hadmits]))
  | integer i hadmits => exact .integer i (hnumeric (by simp [hadmits]))
  | text s hadmits => exact .text (.inl ((affinity_of_definition hc).2 hadmits))
  | timestamp m => exact m.plain_text c

theorem suits_of_declared {t : ColumnType} {text : String} (hsql : t.sql .sqlite = .ok text)
    {v : Value} (h : t.declared? = some (.literal v)) : v = .null ∨ t.validate v = true := by
  induction t generalizing text with
  | primaryKey inner autoincrement ih =>
    obtain ⟨head, -, ⟨-, -, hword⟩ | ⟨hhead, -⟩⟩ := ColumnType.sql_key hsql
    · contradiction
    · exact ih hhead h
  | _ =>
    obtain ⟨clause, hclause, -⟩ := except_bind_eq_ok hsql
    have hdefault : ColumnType.default? _ = some (.literal v) := h
    rw [ColumnType.defaultClause, hdefault] at hclause
    simp only at hclause
    split at hclause
    · rename_i hv
      simpa using hv
    · contradiction

theorem coerce_integer {t : ColumnType} {i : Int64} {v : Value}
    (h : t.coerce (.integer i) = .ok v) (hv : t.validate v = true) :
    literalValue (Dialect.sqlite.written v) = .integer i := by
  induction t with
  | primaryKey inner autoincrement ih => exact ih h hv
  | boolean default =>
    rw [ColumnType.coerce] at h
    split at h
    · rename_i hzero
      obtain rfl := Except.ok.inj h
      exact hzero ▸ rfl
    split at h
    · rename_i hone
      obtain rfl := Except.ok.inj h
      exact hone ▸ rfl
    · contradiction
  | integer default =>
    obtain rfl := Except.ok.inj h
    exact congrArg Value.integer (Int64.ofInt_toInt i)
  | _ =>
    obtain rfl := Except.ok.inj h
    contradiction

theorem Kept.found {t : ColumnType} {w v : Value} (h : Kept t w) (hread : t.coerce w = .ok v)
    (hv : t.validate v = true) : literalValue (Dialect.sqlite.written v) = w := by
  cases h with
  | null =>
    obtain rfl := Except.ok.inj (t.coerce_null.symm.trans hread)
    exact absurd rfl (Value.ne_null_of_validate hv)
  | integer i => exact coerce_integer hread hv
  | text s hadmits =>
    have hsame : t.coerce (.text s) = .ok (.text s) :=
      ColumnType.coerce_same (congrArg some hadmits.symm)
    obtain rfl := Except.ok.inj (hsame.symm.trans hread)
    rfl
  | timestamp m hadmits =>
    obtain rfl := Except.ok.inj ((ColumnType.coerce_moment hadmits m).symm.trans hread)
    exact congrArg (fun cs => Value.text (String.ofList cs)) m.write_kept

theorem readBoolean_of_colon {s : String} (h : ':' ∈ s.toList) :
    ColumnType.readBoolean? s = none := by
  have hword : ∀ word : String, ':' ∉ word.toList → s ≠ word := by
    rintro word hword rfl
    exact hword h
  simp [ColumnType.readBoolean?, hword]

theorem coerce_colon {t : ColumnType} {s : String} (hs : ':' ∈ s.toList) {v : Value}
    (h : t.coerce (.text s) = .ok v) (hv : t.validate v = true) :
    t.admits = .text ∧ v = .text s ∨ t.admits = .timestamp ∧ ∃ m, v = .timestamp m := by
  induction t with
  | primaryKey inner autoincrement ih => exact ih h hv
  | boolean default =>
    rw [ColumnType.coerce, readBoolean_of_colon hs] at h
    obtain rfl := Except.ok.inj h
    contradiction
  | integer default =>
    obtain rfl := Except.ok.inj h
    contradiction
  | string length default => exact .inl ⟨rfl, (Except.ok.inj h).symm⟩
  | datetime default =>
    cases v with
    | timestamp m => exact .inr ⟨rfl, m, rfl⟩
    | _ => contradiction

theorem colon_mem_seconds (m : Timestamp) : ':' ∈ (String.ofList m.writeSeconds).toList := by
  simp [Timestamp.writeSeconds, Timestamp.writeClock]

theorem point_mem_write (m : Timestamp) : '.' ∈ m.write := by
  simp [Timestamp.write]

theorem point_not_mem_seconds (m : Timestamp) : '.' ∉ m.writeSeconds := by
  have hdigit : ∀ c : Char, c.isDigit = true → c ≠ '.' := by
    rintro c hc rfl
    contradiction
  have hall : ∀ c ∈ m.writeSeconds, c ≠ '.' := List.forall_mem_append.2
    ⟨Timestamp.forall_mem_writeDate hdigit (by decide) (by decide) m.date,
      List.forall_mem_cons.2 ⟨by decide, Timestamp.forall_mem_writeClock hdigit (by decide) m⟩⟩
  exact fun h => hall _ h rfl

theorem compareValues_self {t : ColumnType} {w : Value} (h : Kept t w) :
    compareValues w w = .eq := by
  have htext : ∀ s : String, compareValues (.text s) (.text s) = .eq := fun s =>
    Std.compare_self (a := s)
  cases h with
  | null => rfl
  | integer i =>
    simp [compareValues, place?, comparePlaces, compareOfLessAndEq]
  | text s => exact htext s
  | timestamp m => exact htext _

theorem isEq_compareValues {s s' : String} (h : s ≠ s') :
    (compareValues (.text s) (.text s')).isEq = false := by
  have hne : compare s s' ≠ .eq := fun heq => h (Std.LawfulEqOrd.eq_of_compare heq)
  exact Bool.eq_false_iff.2 fun heq => hne (Ordering.isEq_iff_eq_eq.1 heq)

section

variable {ρ : Type} {stores : ColumnDefinition → String → Value → Prop}
  {has : ρ → String → ColumnDefinition → Value → Prop} {selects : ρ → String → Prop}
  (hdb : KeepsValues stores has selects)

include hdb

theorem kept_of_literal {col : Column} {c : ColumnDefinition} (hc : col.Says .sqlite c)
    {v w : Value} (hv : v = .null ∨ col.type.validate v = true)
    (h : stores c (Dialect.sqlite.literal v) w) : Kept col.type w := by
  have hread : Literal.read? (Dialect.sqlite.literal v) = some (Dialect.sqlite.written v) := by
    cases hv with
    | inl hnull => exact hnull ▸ Spells.literal Dialect.sqlite.spells_null
    | inr hvalid => exact Spells.literal (Dialect.spells_literal hvalid)
  obtain rfl := hdb.stores_eq hread (plain_written hc hv) h
  exact kept_written hv

theorem Leaves.kept {col : Column} {c : ColumnDefinition} (hc : col.Says .sqlite c)
    {text : String} (hsql : col.type.sql .sqlite = .ok text) {origin : Origin} {w : Value}
    (h : Leaves stores col.type c origin w) (horigin : origin ≠ .clock) : Kept col.type w := by
  cases h with
  | given hliteral hstores =>
    rcases ColumnType.literal_cases hliteral with ⟨rfl, -, rfl, -⟩ | ⟨hv, rfl, -⟩
    · exact kept_of_literal hdb hc (.inl rfl) hstores
    · exact kept_of_literal hdb hc hv hstores
  | default hdeclared hstores =>
    exact kept_of_literal hdb hc (suits_of_declared hsql hdeclared) hstores
  | clock => contradiction
  | counted i hnumber => exact .integer i (admits_of_isRowNumber hc hnumber)

theorem Leaves.cases {col : Column} {c : ColumnDefinition} (hc : col.Says .sqlite c)
    {text : String} (hsql : col.type.sql .sqlite = .ok text) {origin : Origin} {w v : Value}
    (h : Leaves stores col.type c origin w) (hread : col.type.coerce w = .ok v)
    (hv : col.type.validate v = true) :
    (¬(origin = .clock ∧ col.type.admits = .timestamp) ∧ Kept col.type w ∧
        literalValue (Dialect.sqlite.written v) = w) ∨
      (origin = .clock ∧ col.type.admits = .timestamp) ∧
        ∃ m n : Timestamp, w = .text (String.ofList m.writeSeconds) ∧ v = .timestamp n := by
  by_cases horigin : origin = .clock
  · subst horigin
    obtain ⟨m, hm⟩ : ∃ m : Timestamp, w = .text (String.ofList m.writeSeconds) := by
      cases h with
      | @clock _ m _ _ hstores =>
        exact ⟨m, hdb.stores_eq (Spells.literal (spells_text _))
          (.text (.inr (colon_mem_seconds m))) hstores⟩
    subst hm
    rcases coerce_colon (colon_mem_seconds m) hread hv with ⟨hadmits, rfl⟩ | ⟨hadmits, n, rfl⟩
    · have hother : col.type.admits ≠ .timestamp := by simp [hadmits]
      exact .inl ⟨fun hclock => hother hclock.2, .text _ hadmits, rfl⟩
    · exact .inr ⟨⟨rfl, hadmits⟩, m, n, rfl, rfl⟩
  · have hkept := h.kept hdb hc hsql horigin
    exact .inl ⟨fun hclock => horigin hclock.1, hkept, hkept.found hread hv⟩

/-- A value that was read from a column finds its row again: the literal in the condition that looks
for it stands for the value that is stored, and the condition selects the row. Only the database's
own clock leaves timestamps for which it does neither. -/
theorem found_iff {s : Schema} {name : String} {col : Column} (hcol : s.column? name = some col)
    {text : String} (hsql : col.type.sql .sqlite = .ok text) {c : ColumnDefinition}
    (hc : col.Says .sqlite c) {origin : Origin} {w v : Value}
    (hleaves : Leaves stores col.type c origin w) (hread : col.type.coerce w = .ok v)
    (hv : col.type.validate v = true) :
    ∃ sql l, conditionSql .sqlite s name .eq v = .ok sql ∧
      Condition.read? sql = some (.compare name .eq l) ∧
      (literalValue l = w ↔ ¬(origin = .clock ∧ col.type.admits = .timestamp)) ∧
      ∀ {row : ρ}, has row name c w →
        (selects row sql ↔ ¬(origin = .clock ∧ col.type.admits = .timestamp)) := by
  obtain ⟨sql, hcondition, hcompare⟩ := conditionSql_read .sqlite hcol .eq hv
  have hplain := plain_written hc (.inr hv)
  have hw : w ≠ .null := by
    rintro rfl
    exact Value.ne_null_of_validate hv (Except.ok.inj (col.type.coerce_null.symm.trans hread)).symm
  have hselects {row : ρ} (hrow : has row name c w) {b : Bool}
      (hb : (compareValues w (literalValue (Dialect.sqlite.written v))).isEq = b) :
      selects row sql ↔ b = true :=
    hdb.selects_iff hrow hcompare hplain hw (Dialect.written_ne_null _ hv) (congrArg some hb)
  refine ⟨sql, _, hcondition, hcompare, ?_⟩
  rcases hleaves.cases hdb hc hsql hread hv with ⟨hother, hkept, hsame⟩ | ⟨hclock, m, n, rfl, rfl⟩
  · refine ⟨iff_of_true hsame hother, fun {row} hrow => ?_⟩
    have hequal := hselects (b := true) hrow (by rw [hsame, compareValues_self hkept]; rfl)
    exact hequal.trans (iff_of_true rfl hother)
  · -- whatever was read of the clock's text, its literal has a fraction and the text has none
    have hne : m.writeSeconds ≠ n.write := fun h => point_not_mem_seconds m (h ▸ point_mem_write n)
    refine ⟨iff_of_false (fun h => hne (String.ofList_inj.1 (Value.text.inj h)).symm)
      (not_not_intro hclock), fun {row} hrow => ?_⟩
    have hdiffer := hselects (b := false) hrow
      (isEq_compareValues fun h => hne (String.ofList_inj.1 h))
    exact hdiffer.trans (iff_of_false Bool.false_ne_true (not_not_intro hclock))

end

end Database

namespace Sample

open Database

def morning : Timestamp := (moment? 2024 1 2 3 4 5 0).get (by decide)

theorem stamped_defined : stamped.Says .sqlite stampedDefinition :=
  ⟨rfl, rfl, .some .now, rfl, rfl, rfl, rfl⟩

theorem lastLeap_found :
    almanac.column? "at" = some stamped ∧
      stamped.type.sql .sqlite = .ok "TIMESTAMP DEFAULT CURRENT_TIMESTAMP" ∧
      stamped.Says .sqlite stampedDefinition ∧
      Leaves Stores stamped.type stampedDefinition .given (.text (String.ofList lastLeap.write)) ∧
      stamped.type.coerce (.text (String.ofList lastLeap.write)) =
        .ok (.timestamp lastLeap.kept) ∧
      stamped.type.validate (.timestamp lastLeap.kept) = true ∧
      ∃ sql, conditionSql .sqlite almanac "at" .eq (.timestamp lastLeap.kept) = .ok sql ∧
        Selects (pages, [.text (String.ofList lastLeap.write)]) sql := by
  have hcolumn : almanac.column? "at" = some stamped := by decide +kernel
  have hsql : stamped.type.sql .sqlite = .ok "TIMESTAMP DEFAULT CURRENT_TIMESTAMP" := by
    decide +kernel
  have hleaves : Leaves Stores stamped.type stampedDefinition .given
      (.text (String.ofList lastLeap.write)) :=
    .given (v := .timestamp lastLeap) rfl (Timestamp.stores_literal _ rfl .sqlite lastLeap)
  have hread := ColumnType.coerce_moment (t := stamped.type) rfl lastLeap
  obtain ⟨sql, l, hcondition, -, -, hrows⟩ :=
    found_iff keepsValues hcolumn hsql stamped_defined hleaves hread rfl
  have hrow : pages.Has [.text (String.ofList lastLeap.write)] "at" stampedDefinition
      (.text (String.ofList lastLeap.write)) := ⟨by decide +kernel, by decide +kernel⟩
  exact ⟨hcolumn, hsql, stamped_defined, hleaves, hread, rfl, sql, hcondition,
    (hrows hrow).2 (by decide)⟩

/-- The clock's text is read as a timestamp, whose literal is another text. -/
theorem morning_lost :
    almanac.column? "at" = some stamped ∧
      stamped.type.sql .sqlite = .ok "TIMESTAMP DEFAULT CURRENT_TIMESTAMP" ∧
      stamped.Says .sqlite stampedDefinition ∧
      Leaves Stores stamped.type stampedDefinition .clock (.text "2024-01-02 03:04:05") ∧
      stamped.type.coerce (.text "2024-01-02 03:04:05") = .ok (.timestamp morning) ∧
      stamped.type.validate (.timestamp morning) = true ∧
      ∃ sql, conditionSql .sqlite almanac "at" .eq (.timestamp morning) = .ok sql ∧
        Condition.read? sql =
          some (.compare "at" .eq (.text "2024-01-02 03:04:05.000000")) ∧
        pages.selects [[.compare "at" .eq (.text "2024-01-02 03:04:05.000000")]]
          [.text "2024-01-02 03:04:05"] = false := by
  have hcolumn : almanac.column? "at" = some stamped := by decide +kernel
  have hwritten : Dialect.sqlite.written (.timestamp morning) =
      .text "2024-01-02 03:04:05.000000" := by decide +kernel
  have hstores : Stores stampedDefinition (quoteText (String.ofList morning.writeSeconds))
      (.text "2024-01-02 03:04:05") :=
    ⟨.text (String.ofList morning.writeSeconds), Spells.literal (spells_text _), by decide +kernel⟩
  have hclock : Leaves Stores stamped.type stampedDefinition .clock (.text "2024-01-02 03:04:05") :=
    .clock (m := morning) rfl (by decide) hstores
  refine ⟨hcolumn, by decide +kernel, stamped_defined, hclock, by decide +kernel, rfl, ?_⟩
  obtain ⟨sql, hsql, hread⟩ := conditionSql_read .sqlite hcolumn .eq
    (v := .timestamp morning) rfl
  exact ⟨sql, hsql, hwritten ▸ hread, by decide +kernel⟩

end Sample

end RecordMapper
