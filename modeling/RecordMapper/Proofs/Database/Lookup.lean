import RecordMapper.Database.Table
import RecordMapper.Proofs.Builder.Conditions
import RecordMapper.Proofs.Time.Sorting

namespace RecordMapper

open Sql

theorem Value.ne_null_of_validate {t : ColumnType} {v : Value} (h : t.validate v = true) :
    v ≠ .null := by
  rintro rfl
  simp [ColumnType.validate, Value.kind?] at h

theorem conditionSql_read (d : Dialect) {s : Schema} {name : String} {col : Column}
    (hcol : s.column? name = some col) (op : Operator) {v : Value}
    (hv : col.type.validate v = true) :
    ∃ sql, conditionSql d s name op v = .ok sql ∧
      Condition.read? sql = some (.compare name op (d.written v)) := by
  obtain rfl := Schema.name_of_column hcol
  have hsql : conditionSql d s col.name op v =
      .ok (quoteName col.name ++ " " ++ op.sql ++ " " ++ d.literal v) := by
    have hnull := Value.ne_null_of_validate hv
    simp only [conditionSql, hcol, Value.isNull_of_ne hnull, Bool.false_eq_true, if_false,
      ColumnType.literal_of_ne_null d _ hnull, if_pos hv]
    rfl
  have hspells := (spells_name col.name).blank
    ((spells_operator op).blank (Dialect.spells_literal (d := d) hv))
  exact ⟨_, hsql, Spells.condition (by simpa [Condition.tokens] using hspells)⟩

def Operator.holds? (order : Ordering) : Operator → Option Bool
  | eq => some order.isEq
  | ne => some order.isNe
  | lt => some order.isLT
  | le => some order.isLE
  | gt => some order.isGT
  | ge => some order.isGE
  | like => none
  | notLike => none

namespace Database

/-- Literals that a column stores as they are: a text where texts are, or with a colon, so that it
spells no number, and anywhere else an integer. -/
inductive Plain (c : ColumnDefinition) : Literal → Prop
  | null : Plain c .null
  | integer (i : Int64) : affinity c ≠ .text → Plain c (.integer i.toInt)
  | text {s : String} : affinity c = .text ∨ ':' ∈ s.toList → Plain c (.text s)

/-- Rows of typed columns: what a column stores of the literal that a text spells, what a row has in
a column, and which conditions select it. Nothing is said of NULL, of patterns and of literals that
a column converts. -/
structure KeepsValues (stores : ColumnDefinition → String → Value → Prop)
    (has : ρ → String → ColumnDefinition → Value → Prop) (selects : ρ → String → Prop) : Prop where
  stores_eq {c : ColumnDefinition} {sql : String} {l : Literal} {w : Value} :
    Literal.read? sql = some l → Plain c l → stores c sql w → w = literalValue l
  selects_iff {row : ρ} {name : String} {c : ColumnDefinition} {w : Value} {op : Operator}
      {sql : String} {l : Literal} {b : Bool} :
    has row name c w → Condition.read? sql = some (.compare name op l) → Plain c l →
    w ≠ .null → l ≠ .null → op.holds? (compareValues w (literalValue l)) = some b →
    (selects row sql ↔ b = true)

def Stores (c : ColumnDefinition) (sql : String) (w : Value) : Prop :=
  ∃ l, Literal.read? sql = some l ∧ accept c (literalValue l) = .ok w

structure StoredTable.Has (T : StoredTable) (row : Row) (name : String) (c : ColumnDefinition)
    (w : Value) : Prop where
  definition : T.column? name = some c
  value : T.lookup row name = w

def Selects (row : StoredTable × Row) (sql : String) : Prop :=
  ∃ condition, Condition.read? sql = some condition ∧ row.1.selects [[condition]] row.2 = true

theorem accept_eq_ok {c : ColumnDefinition} {v w : Value} (h : accept c v = .ok w) :
    w = (affinity c).store v := by
  simp only [accept] at h
  split at h
  · contradiction
  split at h
  · contradiction
  · exact (Except.ok.inj h).symm

theorem selects_compare {T : StoredTable} {row : Row} {name : String} {c : ColumnDefinition}
    {w : Value} (h : T.Has row name c w) {op : Operator} {l : Literal} (hw : w.isNull = false)
    (hl : ((affinity c).store (literalValue l)).isNull = false) {b : Bool}
    (hb : op.holds? (compareValues w ((affinity c).store (literalValue l))) = some b) :
    T.selects [[.compare name op l]] row = b := by
  have hoperand : T.operand name op l = (affinity c).store (literalValue l) := by
    have hpattern : ¬(op = .like ∨ op = .notLike) := by
      rintro (rfl | rfl) <;> contradiction
    rw [StoredTable.operand, if_neg hpattern, h.definition, Option.elim_some]
  have hcompares : compares? op w ((affinity c).store (literalValue l)) = some b := by
    rw [compares?, hw, hl, Bool.or_false, if_neg Bool.false_ne_true, ← hb]
    cases op <;> first | rfl | contradiction
  simp [StoredTable.selects, StoredTable.satisfies, h.value, hoperand, hcompares]

theorem mem_dropWhile {p : Char → Bool} {x : Char} {cs : List Char} (hx : p x = false)
    (h : x ∈ cs) : x ∈ cs.dropWhile p := by
  induction cs with
  | nil => contradiction
  | cons c cs ih =>
    rw [List.dropWhile_cons]
    split
    · rename_i hc
      rcases List.mem_cons.1 h with rfl | h
      · exact absurd hc (hx ▸ Bool.false_ne_true)
      · exact ih h
    · exact h

theorem readNat_of_colon {cs : List Char} (h : ':' ∈ cs) : Numeral.readNat? cs = none := by
  refine if_neg fun hdigits => ?_
  have hcolon := List.all_eq_true.1 hdigits.2 ':' h
  contradiction

theorem readInt_of_colon {cs : List Char} (h : ':' ∈ cs) : Numeral.readInt? cs = none := by
  unfold Numeral.readInt?
  split
  · rw [readNat_of_colon (by simpa using h)]
    rfl
  · rw [readNat_of_colon (by simpa using h)]
    rfl
  · rw [readNat_of_colon h]
    rfl

theorem readExponent_of_colon {cs : List Char} (h : ':' ∈ cs) :
    Floating.readExponent? cs = none := by
  cases cs with
  | nil => contradiction
  | cons c cs =>
    rw [Floating.readExponent?]
    split
    · rename_i hc
      refine readInt_of_colon ((List.mem_cons.1 h).resolve_left ?_)
      rintro rfl
      revert hc
      decide
    · rfl

theorem readUnsigned_of_colon (f : BinaryFormat) (negative : Bool) {cs : List Char}
    (h : ':' ∈ cs) : Floating.readUnsigned? f negative cs = none := by
  have hrest := mem_dropWhile (p := Char.isDigit) (by decide) h
  -- the colon is left over, with a point before it or without
  have hnone : ∀ (whole places : List Char) {rest : List Char}, ':' ∈ rest →
      (if whole = [] ∧ places = [] then none
        else (Floating.readExponent? rest).map fun e =>
          Floating.ofDecimal f negative (Numeral.value (whole ++ places))
            (e - places.length)) = none := fun whole places rest h => by
    rw [readExponent_of_colon h, Option.map_none, ite_self]
  rw [Floating.readUnsigned?]
  split
  rename_i places rest hparts
  refine hnone _ _ ?_
  split at hparts
  · rename_i r hpoint
    rw [hpoint] at hrest
    obtain ⟨-, rfl⟩ := Prod.mk.inj hparts
    exact mem_dropWhile (by decide) (by simpa using hrest)
  · obtain ⟨-, rfl⟩ := Prod.mk.inj hparts
    exact hrest

theorem readReal_of_colon {cs : List Char} (h : ':' ∈ cs) : readReal? cs = none := by
  unfold readReal?
  split
  · exact readUnsigned_of_colon _ _ (by simpa using h)
  · exact readUnsigned_of_colon _ _ (by simpa using h)
  · exact readUnsigned_of_colon _ _ h

theorem number_of_colon {s : String} (h : ':' ∈ s.toList) : number? s = none := by
  have htrimmed : ':' ∈ ((s.toList.dropWhile isSpace).reverse.dropWhile isSpace).reverse :=
    List.mem_reverse.2 (mem_dropWhile (by decide)
      (List.mem_reverse.2 (mem_dropWhile (by decide) h)))
  simp only [number?, Numeral.readInt64?, Numeral.readSigned?, readInt_of_colon htrimmed,
    readReal_of_colon htrimmed, Option.filter_none, Option.map_none]

theorem store_of_colon (a : Affinity) {s : String} (h : ':' ∈ s.toList) :
    a.store (.text s) = .text s := by
  cases a with
  | text => rfl
  | numeric => rw [Affinity.store, number_of_colon h, Option.getD_none]

theorem Plain.store {c : ColumnDefinition} {l : Literal} (h : Plain c l) :
    (affinity c).store (literalValue l) = literalValue l := by
  cases h with
  | null => cases affinity c <;> rfl
  | integer i hc =>
    cases haffinity : affinity c with
    | text => contradiction
    | numeric => rfl
  | text h =>
    rcases h with htext | hcolon
    · rw [htext]
      rfl
    · exact store_of_colon _ hcolon

theorem Plain.isNull {c : ColumnDefinition} {l : Literal} (h : Plain c l) (hl : l ≠ .null) :
    (literalValue l).isNull = false := by
  cases h with
  | null => contradiction
  | _ => rfl

theorem keepsValues :
    KeepsValues Stores (fun row : StoredTable × Row => row.1.Has row.2) Selects where
  stores_eq hread hplain h := by
    obtain ⟨l', hl', haccept⟩ := h
    obtain rfl := Option.some.inj (hread.symm.trans hl')
    exact (accept_eq_ok haccept).trans hplain.store
  selects_iff {row name c w op sql l b} hrow hread hplain hw hl hb := by
    have hselects : row.1.selects [[.compare name op l]] row.2 = b := by
      refine selects_compare hrow (Value.isNull_of_ne hw) ?_ ?_
      · rw [hplain.store, hplain.isNull hl]
      · rw [hplain.store, hb]
    simp [Selects, hread, hselects]

end Database

namespace Timestamp

theorem colon_mem_write (t : Timestamp) : ':' ∈ (String.ofList t.write).toList := by
  simp [write, writeClock]

theorem read_literal (d : Dialect) (t : Timestamp) :
    Literal.read? (d.literal (.timestamp t)) = some (.text (String.ofList t.write)) :=
  Spells.literal (spells_text _)

open Database

theorem plain_text (c : ColumnDefinition) (t : Timestamp) :
    Plain c (.text (String.ofList t.write)) := .text (.inr t.colon_mem_write)

theorem stores_literal (c : ColumnDefinition) (hc : isRowNumber c = false) (d : Dialect)
    (t : Timestamp) :
    Stores c (d.literal (.timestamp t)) (.text (String.ofList t.write)) := by
  refine ⟨_, read_literal d t, ?_⟩
  simp [literalValue, accept, store_of_colon _ t.colon_mem_write, hc, Value.isNull, Value.kind?]

theorem compareValues_write {t u : Timestamp} (ht : FourDigits t.date.year)
    (hu : FourDigits u.date.year) :
    compareValues (.text (String.ofList t.write)) (.text (String.ofList u.write)) =
      t.kept.order u.kept := by
  have hwrite := compare_write ht hu [] []
  rw [List.append_nil, List.append_nil, Std.compare_self, Ordering.then_eq] at hwrite
  exact (Text.compareOfLessAndEq_ofList t.write u.write).trans hwrite

/-- The literals of two timestamps of the years 0 to 9999 are ordered byte by byte as the timestamps
that they say are in time, and they are the same where those are. These are the timestamps cut to
microseconds, if they are regular. So a condition on a column of timestamps selects a row by the
time of what the row stores there and of the value that it compares with. -/
theorem literals_sort {t u : Timestamp} (ht : FourDigits t.date.year)
    (hu : FourDigits u.date.year) :
    (t.Regular → t.kept = t.toMicros) ∧ (u.Regular → u.kept = u.toMicros) ∧
      (∀ d : Dialect, Text.compareBytes (d.literal (.timestamp t)) (d.literal (.timestamp u)) =
        t.kept.order u.kept) ∧
      (∀ d : Dialect, d.literal (.timestamp t) = d.literal (.timestamp u) ↔ t.kept = u.kept) ∧
      ∀ {s : Schema} {name : String} {col : Column}, s.column? name = some col →
        col.type.admits = .timestamp → ∀ op : Operator,
          ∃ sql condition, conditionSql .sqlite s name op (.timestamp u) = .ok sql ∧
            Condition.read? sql = some condition ∧
            ∀ {ρ : Type} {stores : ColumnDefinition → String → Value → Prop}
              {has : ρ → String → ColumnDefinition → Value → Prop} {selects : ρ → String → Prop},
              KeepsValues stores has selects →
              ∀ {row : ρ} {c : ColumnDefinition} {w : Value}, has row name c w →
                stores c (Dialect.sqlite.literal (.timestamp t)) w →
                ∀ b, op.holds? (t.kept.order u.kept) = some b → (selects row sql ↔ b = true) := by
  refine ⟨kept_of_regular, kept_of_regular, fun d => compareBytes_literal d ht hu, fun d => ?_,
    fun {s name col} hcol hadmits op => ?_⟩
  · constructor
    · intro h
      have heq := compareBytes_literal d ht hu
      rw [h, Text.compareBytes, Std.compare_self] at heq
      exact order_eq_eq.1 heq.symm
    · intro h
      rw [← literal_kept, h, literal_kept]
  · have hv : col.type.validate (.timestamp u) = true := by
      simp [ColumnType.validate, Value.kind?, hadmits]
    obtain ⟨sql, hsql, hread⟩ := conditionSql_read .sqlite hcol op hv
    refine ⟨sql, _, hsql, hread, fun {ρ stores has selects} hdb {row c w} hrow hstores b hb => ?_⟩
    obtain rfl := hdb.stores_eq (read_literal .sqlite t) (t.plain_text c) hstores
    rw [← compareValues_write ht hu] at hb
    exact hdb.selects_iff hrow hread (u.plain_text c) (by simp [literalValue])
      (Dialect.written_ne_null _ hv) hb

end Timestamp

namespace Sample

def lastLeap : Timestamp := (moment? 2016 12 31 23 59 59 1500000000).get (by decide)

def newYear : Timestamp := (moment? 2017 1 1 0 0 0 0).get (by decide)

def fifthSecond : Timestamp := (moment? 2024 1 2 23 56 5 0).get (by decide)

def stamped : Column where
  name := "at"
  type := .datetime (some .now)

def stampedDefinition : ColumnDefinition where
  name := "at"
  type := "TIMESTAMP"
  default := some .now

def almanac : Schema where
  table := "almanac"
  columns := [stamped]

def pages : Database.StoredTable where
  definition := { name := "almanac", columns := [stampedDefinition], foreignKeys := [] }

theorem lastLeap_selected :
    (Timestamp.FourDigits lastLeap.date.year ∧ Timestamp.FourDigits newYear.date.year) ∧
      lastLeap.kept = lastLeap.toMicros ∧
      Text.compareBytes (Dialect.sqlite.literal (.timestamp lastLeap))
        (Dialect.sqlite.literal (.timestamp newYear)) = .lt ∧
      ∃ sql, conditionSql .sqlite almanac "at" .lt (.timestamp newYear) = .ok sql ∧
        Database.Selects (pages, [.text "2016-12-31 23:59:60.500000"]) sql := by
  have hyears : Timestamp.FourDigits lastLeap.date.year ∧
      Timestamp.FourDigits newYear.date.year := by decide
  have horder : lastLeap.kept.order newYear.kept = .lt := by decide +kernel
  have htext : Value.text "2016-12-31 23:59:60.500000" = .text (String.ofList lastLeap.write) := by
    decide +kernel
  obtain ⟨hregular, -, hbytes, -, hselects⟩ := Timestamp.literals_sort hyears.1 hyears.2
  have hcolumn : almanac.column? "at" = some stamped := by decide +kernel
  obtain ⟨sql, condition, hsql, -, hrows⟩ := hselects hcolumn rfl .lt
  have hrow : pages.Has [.text "2016-12-31 23:59:60.500000"] "at" stampedDefinition
      (.text (String.ofList lastLeap.write)) :=
    ⟨by decide +kernel, htext⟩
  have hstores := Timestamp.stores_literal stampedDefinition rfl .sqlite lastLeap
  exact ⟨hyears, hregular (by decide), (hbytes .sqlite).trans horder, sql, hsql,
    (hrows Database.keepsValues hrow hstores true (by rw [horder]; rfl)).2 rfl⟩

theorem straggler_disordered :
    Timestamp.FourDigits straggler.date.year ∧ Timestamp.FourDigits fifthSecond.date.year ∧
      straggler.toMicros.order fifthSecond.toMicros = .lt ∧
      Text.compareBytes (Dialect.sqlite.literal (.timestamp straggler))
        (Dialect.sqlite.literal (.timestamp fifthSecond)) = .gt := by
  decide +kernel

end Sample

end RecordMapper
