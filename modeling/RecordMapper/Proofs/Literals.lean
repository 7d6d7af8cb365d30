import RecordMapper.Answer.Served
import RecordMapper.Column
import RecordMapper.Proofs.Sql.Tokens
import RecordMapper.Proofs.Time.Writing

namespace RecordMapper

def Value.kept : Value → Value
  | timestamp t => timestamp t.kept
  | v => v

def Dialect.written : Dialect → Value → Sql.Literal
  | _, .null => .null
  | postgres, .boolean b => .text (if b then "t" else "f")
  | sqlite, .boolean b => .integer (if b then 1 else 0)
  | _, .integer i => .integer i.toInt
  | _, .real _ => .null
  | _, .text s => .text s
  | _, .timestamp t => .text (String.ofList t.write)

def Dialect.counted : Dialect → Sql.Literal
  | postgres => .default
  | sqlite => .null

def ColumnType.written (d : Dialect) (t : ColumnType) (v : Value) : Sql.Literal :=
  if v.isNull && t.isAutoincrement then d.counted else d.written v

/-- How a driver reports what is stored: an embedded database reports numbers and texts, and a
server that knows the types of its columns reports booleans and timestamps as such. -/
inductive Reporting
  | stored
  | typed
  deriving DecidableEq

/-- What a driver reports of a literal in a column of the type. Where a counter was asked for and
where nothing was given, nothing is reported. -/
def Sql.Literal.report? (how : Reporting) (t : ColumnType) : Sql.Literal → Option Value
  | null => some .null
  | default => some .null
  | now => none
  | integer i => if Numeral.fitsSigned 64 i then some (.integer (Int64.ofInt i)) else none
  | text s =>
    match how, t.admits with
    | .typed, .boolean => (Served.readBoolean? s.toList).map .boolean
    | .typed, .timestamp => (Timestamp.read? s.toList).map .timestamp
    | _, _ => some (.text s)

/-- Whether a column of the type gets the value back, whatever way the literal is reported. -/
def Sql.Literal.Carries (l : Literal) (t : ColumnType) (v : Value) : Prop :=
  ∀ how, ∃ w, l.report? how t = some w ∧ t.coerce w = .ok v.kept

open Sql

theorem spells_writeInt (i : Int) :
    Spells (Numeral.writeInt i) (Literal.tokens (.integer i)) := by
  cases i with
  | ofNat n => exact spells_number n
  | negSucc n => exact (spells_number (n + 1)).afterMark (by decide)

theorem Dialect.spells_boolean (d : Dialect) (b : Bool) :
    Spells (d.boolean b).toList (d.written (.boolean b)).tokens := by
  cases d with
  | postgres =>
    have hquoted : postgres.boolean b = quoteText (if b then "t" else "f") := by
      cases b <;> decide +kernel
    rw [hquoted]
    exact spells_text _
  | sqlite =>
    have hnumber : (sqlite.boolean b).toList = Numeral.writeInt (if b then 1 else 0) := by
      cases b <;> decide +kernel
    rw [hnumber]
    exact spells_writeInt _

theorem Value.isNull_of_ne {v : Value} (h : v ≠ .null) : v.isNull = false :=
  Bool.eq_false_iff.2 fun hnull => h (isNull_eq_true.1 hnull)

theorem ColumnType.admits_ne_real (t : ColumnType) : t.admits ≠ .real := by
  induction t with
  | primaryKey inner autoincrement ih => exact ih
  | _ => exact nofun

/-- The values of a type, each with the kind that the type then admits. -/
inductive ColumnType.Suited (t : ColumnType) : Value → Prop
  | boolean (b : Bool) : t.admits = .boolean → Suited t (.boolean b)
  | integer (i : Int64) : t.admits = .integer → Suited t (.integer i)
  | text (s : String) : t.admits = .text → Suited t (.text s)
  | timestamp (m : Timestamp) : t.admits = .timestamp → Suited t (.timestamp m)

theorem ColumnType.suited_of_validate {t : ColumnType} {v : Value} (h : t.validate v = true) :
    t.Suited v := by
  have hkind : v.kind? = some t.admits := of_decide_eq_true h
  cases v with
  | null => contradiction
  | boolean b => exact .boolean b (Option.some.inj hkind).symm
  | integer i => exact .integer i (Option.some.inj hkind).symm
  | real x => exact absurd (Option.some.inj hkind).symm t.admits_ne_real
  | text s => exact .text s (Option.some.inj hkind).symm
  | timestamp m => exact .timestamp m (Option.some.inj hkind).symm

theorem Dialect.written_ne_null (d : Dialect) {t : ColumnType} {v : Value}
    (h : t.validate v = true) : d.written v ≠ .null := by
  cases ColumnType.suited_of_validate h with
  | boolean b => cases d <;> simp [written]
  | _ => simp [written]

theorem Dialect.spells_literal {d : Dialect} {t : ColumnType} {v : Value}
    (h : t.validate v = true) : Spells (d.literal v).toList (d.written v).tokens := by
  cases ColumnType.suited_of_validate h with
  | boolean b => exact d.spells_boolean b
  | integer i =>
    simp only [literal, Value.display, written, String.toList_ofList]
    exact spells_writeInt i.toInt
  | text s => exact spells_text s
  | timestamp m => exact spells_text _

theorem Dialect.spells_counted (d : Dialect) :
    Spells d.autoincrementDefault.toList d.counted.tokens := by
  cases d <;> exact spells_word (by decide)

theorem Dialect.spells_null (d : Dialect) :
    Spells (d.literal .null).toList (d.written .null).tokens := by
  cases d <;> exact spells_word (w := "NULL") (by decide)

namespace ColumnType

theorem literal_cases {d : Dialect} {t : ColumnType} {v : Value} {sql : String}
    (h : t.literal d v = .ok sql) :
    (v = .null ∧ t.isAutoincrement = true ∧ sql = d.autoincrementDefault ∧
        t.written d v = d.counted) ∨
      ((v = .null ∨ t.validate v = true) ∧ sql = d.literal v ∧ t.written d v = d.written v) := by
  rw [literal] at h
  split at h
  · rename_i hcounted
    have hwritten : t.written d v = d.counted := if_pos hcounted
    simp only [Bool.and_eq_true, Value.isNull_eq_true] at hcounted
    exact .inl ⟨hcounted.1, hcounted.2, (Except.ok.inj h).symm, hwritten⟩
  · rename_i hcounted
    split at h
    · rename_i hvalid
      refine .inr ⟨by simpa using hvalid, (Except.ok.inj h).symm, if_neg hcounted⟩
    · contradiction

theorem spells_literal {d : Dialect} {t : ColumnType} {v : Value} {sql : String}
    (h : t.literal d v = .ok sql) : Spells sql.toList (t.written d v).tokens := by
  rcases literal_cases h with ⟨_, _, rfl, hwritten⟩ | ⟨hvalid, rfl, hwritten⟩
  · rw [hwritten]
    exact d.spells_counted
  · rw [hwritten]
    rcases hvalid with rfl | hvalid
    · exact d.spells_null
    · exact Dialect.spells_literal hvalid

theorem literal_of_ne_null (d : Dialect) (t : ColumnType) {v : Value} (hv : v ≠ .null) :
    t.literal d v =
      if t.validate v then .ok (d.literal v) else .error (.validation (.badLiteral v t.kind)) := by
  rw [literal, Value.isNull_of_ne hv, Bool.false_and, if_neg Bool.false_ne_true, Bool.false_or]

theorem literal_of_suits (d : Dialect) {t : ColumnType} {v : Value}
    (h : v = .null ∨ t.validate v = true) : ∃ sql, t.literal d v = .ok sql := by
  rw [literal]
  split
  · exact ⟨_, rfl⟩
  · exact ⟨_, if_pos (by simpa using h)⟩

theorem coerce_null (t : ColumnType) : t.coerce .null = .ok .null := by
  induction t with
  | primaryKey inner autoincrement ih => exact ih
  | _ => rfl

theorem coerce_same {t : ColumnType} {v : Value} (h : v.kind? = some t.admits) :
    t.coerce v = .ok v := by
  induction t with
  | primaryKey inner autoincrement ih => exact ih h
  | _ => cases v <;> first | rfl | simp [admits, Value.kind?] at h

theorem coerce_number {t : ColumnType} (h : t.admits = .boolean) (b : Bool) :
    t.coerce (.integer (if b then 1 else 0)) = .ok (.boolean b) := by
  induction t with
  | primaryKey inner autoincrement ih => exact ih h
  | boolean default => cases b <;> rfl
  | _ => contradiction

theorem coerce_word {t : ColumnType} (h : t.admits = .boolean) (b : Bool) :
    t.coerce (.text (if b then "t" else "f")) = .ok (.boolean b) := by
  induction t with
  | primaryKey inner autoincrement ih => exact ih h
  | boolean default =>
    have hread : readBoolean? (if b then "t" else "f") = some b := by cases b <;> decide +kernel
    rw [coerce, hread]
    rfl
  | _ => contradiction

theorem coerce_moment {t : ColumnType} (h : t.admits = .timestamp) (m : Timestamp) :
    t.coerce (.text (String.ofList m.write)) = .ok (.timestamp m.kept) := by
  induction t with
  | primaryKey inner autoincrement ih => exact ih h
  | datetime default => simp [coerce, Timestamp.read_write]
  | _ => contradiction

theorem carries_nothing {l : Literal} {t : ColumnType}
    (h : ∀ how, l.report? how t = some .null) : l.Carries t .null := by
  intro how
  exact ⟨.null, h how, coerce_null t⟩

theorem carries_boolean (d : Dialect) {t : ColumnType} (h : t.admits = .boolean) (b : Bool) :
    (d.written (.boolean b)).Carries t (.boolean b) := by
  intro how
  cases d with
  | postgres =>
    cases how with
    | stored => exact ⟨_, rfl, coerce_word h b⟩
    | typed =>
      refine ⟨.boolean b, ?_, coerce_same (congrArg some h.symm)⟩
      simp only [Dialect.written, Literal.report?, h]
      cases b <;> decide +kernel
  | sqlite =>
    -- both ways report the number, and the column turns it back
    refine ⟨.integer (if b then 1 else 0), ?_, coerce_number h b⟩
    cases b <;> rfl

theorem carries_timestamp (d : Dialect) {t : ColumnType} (h : t.admits = .timestamp)
    (m : Timestamp) : (d.written (.timestamp m)).Carries t (.timestamp m) := by
  intro how
  cases how with
  | stored => exact ⟨_, rfl, coerce_moment h m⟩
  | typed =>
    refine ⟨.timestamp m.kept, ?_, coerce_same (congrArg some h.symm)⟩
    simp [Dialect.written, Literal.report?, h, Timestamp.read_write]

theorem carries_written {d : Dialect} {t : ColumnType} {v : Value} {sql : String}
    (h : t.literal d v = .ok sql) : (t.written d v).Carries t v := by
  rcases literal_cases h with ⟨rfl, _, _, hwritten⟩ | ⟨rfl | hvalid, _, hwritten⟩
  · rw [hwritten]
    exact carries_nothing fun how => by cases d <;> rfl
  · rw [hwritten]
    exact carries_nothing fun how => by cases d <;> rfl
  rw [hwritten]
  cases suited_of_validate hvalid with
  | boolean b hadmits => exact carries_boolean d hadmits b
  | integer i hadmits =>
    intro how
    refine ⟨.integer i, ?_, coerce_same (congrArg some hadmits.symm)⟩
    simp [Dialect.written, Literal.report?, Numeral.fitsSigned_toInt]
  | text s hadmits =>
    intro how
    refine ⟨.text s, ?_, coerce_same (congrArg some hadmits.symm)⟩
    simp only [Dialect.written, Literal.report?, hadmits]
  | timestamp m hadmits => exact carries_timestamp d hadmits m

end ColumnType

end RecordMapper
