import RecordMapper.Proofs.Migration.Definitions

namespace RecordMapper.ColumnType

def HasUnfitDefault (t : ColumnType) : Prop :=
  ∃ v, t.declared? = some (.literal v) ∧ v ≠ .null ∧ t.validate v = false

/-- Whether a key, at any depth, is to be counted and wraps no integer. -/
def Miscounted : ColumnType → Prop
  | primaryKey inner autoincrement =>
    autoincrement = true ∧ inner.isInteger = false ∨ inner.Miscounted
  | _ => False

/-- Whether a dialect has a word for the type that leaves no place for its default, unfit as it
is. -/
def Overlooked (d : Dialect) (t : ColumnType) : Prop :=
  t.HasUnfitDefault ∧ ¬ t.Miscounted ∧ (t.counter? d).isSome

def refusal? (d : Dialect) (t : ColumnType) : Option ErrorKind :=
  match t.sql d with
  | .ok _ => none
  | .error e => some e.kind

section

variable {d : Dialect} {t inner : ColumnType} {autoincrement : Bool}

theorem refusal_of_ok {text : String} (h : t.sql d = .ok text) : t.refusal? d = none := by
  rw [refusal?, h]

theorem refusal_of_error {e : Error} (h : t.sql d = .error e) : t.refusal? d = some e.kind := by
  rw [refusal?, h]

theorem not_miscounted_of_isInteger (h : t.isInteger = true) : ¬ t.Miscounted := by
  cases t with
  | integer default => exact id
  | _ => contradiction

theorem defaultClause_eq_error {e : Error} :
    t.defaultClause d = .error e ↔ ∃ v, t.default? = some (.literal v) ∧
      v ≠ .null ∧ t.validate v = false ∧ e = .validation (.badDefault v t.kind) := by
  rw [defaultClause]
  cases t.default? with
  | none => simp
  | some default =>
    cases default with
    | now => simp
    | literal v =>
      by_cases hnull : v = .null
      · simp [hnull]
      · cases hvalid : t.validate v with
        | true => simp [hvalid]
        | false => simp [hnull, hvalid, eq_comm (a := e)]

theorem declared_of_plain (ht : t.isPrimaryKey = false) : t.declared? = t.default? := by
  cases t with
  | primaryKey inner autoincrement => contradiction
  | _ => rfl

theorem refusal_of_plain (ht : t.isPrimaryKey = false) (d : Dialect) :
    t.HasUnfitDefault ∧ t.refusal? d = some .validation ∨
      ¬ t.HasUnfitDefault ∧ t.refusal? d = none := by
  have hsql : t.sql d = t.defaultClause d >>= fun clause => .ok (t.keyword d ++ clause) := by
    cases t with
    | primaryKey inner autoincrement => contradiction
    | _ => rfl
  rw [HasUnfitDefault, declared_of_plain ht]
  cases hclause : t.defaultClause d with
  | ok clause =>
    rw [hclause] at hsql
    refine .inr ⟨fun ⟨v, hdefault, hv, hvalid⟩ => ?_, refusal_of_ok hsql⟩
    cases hclause.symm.trans (defaultClause_eq_error.2 ⟨v, hdefault, hv, hvalid, rfl⟩)
  | error e =>
    rw [hclause] at hsql
    obtain ⟨v, hdefault, hv, hvalid, rfl⟩ := defaultClause_eq_error.1 hclause
    exact .inl ⟨⟨v, hdefault, hv, hvalid⟩, refusal_of_error hsql⟩

theorem hasUnfitDefault_key : (primaryKey inner autoincrement).HasUnfitDefault ↔
    inner.HasUnfitDefault := Iff.rfl

theorem refusal_of_counted (hinteger : inner.isInteger = false) (d : Dialect) :
    (primaryKey inner true).refusal? d = some .autoincrementType := by
  have hsql : (primaryKey inner true).sql d = .error (.autoincrementType (.wraps inner.kind)) := by
    rw [sql, hinteger]
    rfl
  rw [refusal_of_error hsql]
  rfl

theorem refusal_of_word (hinteger : inner.isInteger = true) {word : String}
    (hword : d.autoincrement? = some word) : (primaryKey inner true).refusal? d = none := by
  have hsql : (primaryKey inner true).sql d = .ok (word ++ " " ++ Keyword.primaryKey) := by
    rw [sql, hinteger, hword]
    rfl
  exact refusal_of_ok hsql

theorem refusal_of_wrapped (h : autoincrement = true → inner.isInteger = true ∧
    d.autoincrement? = none) :
    (primaryKey inner autoincrement).refusal? d = inner.refusal? d := by
  have hsql : (primaryKey inner autoincrement).sql d =
      inner.sql d >>= fun head => .ok (head ++ " " ++ Keyword.primaryKey) := by
    cases autoincrement with
    | false =>
      rw [sql]
      rfl
    | true =>
      obtain ⟨hinteger, hword⟩ := h rfl
      rw [sql, hinteger, hword]
      rfl
  rw [refusal?, hsql, refusal?]
  cases inner.sql d <;> rfl

theorem refusal_of_miscounted (h : t.Miscounted) (d : Dialect) :
    t.refusal? d = some .autoincrementType := by
  induction t with
  | primaryKey inner autoincrement ih =>
    rcases h with ⟨rfl, hinteger⟩ | hinner
    · exact refusal_of_counted hinteger d
    · cases autoincrement with
      | false =>
        refine (refusal_of_wrapped ?_).trans (ih hinner)
        nofun
      | true =>
        -- an integer wraps nothing, so that the outer key is miscounted as well
        refine refusal_of_counted (Bool.eq_false_iff.2 fun hinteger => ?_) d
        exact not_miscounted_of_isInteger hinteger hinner
  | _ => exact h.elim

theorem refusal_of_counter (hcounted : ¬ t.Miscounted) {word : String}
    (hword : t.counter? d = some word) : t.refusal? d = none := by
  induction t with
  | primaryKey inner autoincrement ih =>
    obtain ⟨hinteger, hinner⟩ := not_or.1 hcounted
    cases autoincrement with
    | false =>
      refine (refusal_of_wrapped ?_).trans (ih hinner hword)
      nofun
    | true => exact refusal_of_word (by simpa using hinteger) hword
  | _ => contradiction

theorem refusal_of_default (hcounted : ¬ t.Miscounted) (hword : t.counter? d = none) :
    t.HasUnfitDefault ∧ t.refusal? d = some .validation ∨
      ¬ t.HasUnfitDefault ∧ t.refusal? d = none := by
  induction t with
  | primaryKey inner autoincrement ih =>
    obtain ⟨hinteger, hinner⟩ := not_or.1 hcounted
    rw [hasUnfitDefault_key]
    cases autoincrement with
    | false =>
      rw [refusal_of_wrapped (by nofun)]
      exact ih hinner hword
    | true =>
      have hinteger : inner.isInteger = true := by simpa using hinteger
      rw [refusal_of_wrapped fun _ => ⟨hinteger, hword⟩]
      exact ih hinner (counter_of_isInteger hinteger d)
  | _ => exact refusal_of_plain rfl d

theorem refusal_eq_validation_iff (hcounted : ¬ t.Miscounted) :
    t.refusal? d = some .validation ↔ t.HasUnfitDefault ∧ t.counter? d = none := by
  cases hword : t.counter? d with
  | some word => simp [refusal_of_counter hcounted hword]
  | none =>
    rcases refusal_of_default hcounted hword with ⟨hunfit, hrefusal⟩ | ⟨hfit, hrefusal⟩
    · simp [hrefusal, hunfit]
    · simp [hrefusal, hfit]

theorem refusal_of_no_word (hcounted : ¬ t.Miscounted) (hword : t.counter? d = none) :
    t.refusal? d = t.refusal? .sqlite := by
  rcases refusal_of_default hcounted hword with ⟨hunfit, hrefusal⟩ | ⟨hfit, hrefusal⟩
  · rw [hrefusal, (refusal_eq_validation_iff hcounted).2 ⟨hunfit, t.counter_sqlite⟩]
  · rcases refusal_of_default hcounted t.counter_sqlite with ⟨hunfit, _⟩ | ⟨_, hsqlite⟩
    · exact absurd hunfit hfit
    · rw [hrefusal, hsqlite]

end

/-- Both dialects refuse a type with errors of the same kind, or both accept it, unless the word for
counted keys makes one of them overlook a default. An unfit default is invalid in both dialects
otherwise, if no key is miscounted. Whatever its default, a type with a miscounted key is refused as
such by both. -/
theorem refusal_alike_iff (t : ColumnType) :
    (t.refusal? .postgres = t.refusal? .sqlite ↔ ¬ t.Overlooked .postgres) ∧
    (t.HasUnfitDefault → ¬ t.Miscounted → t.refusal? .sqlite = some .validation ∧
      (t.refusal? .postgres = some .validation ↔ ¬ t.Overlooked .postgres)) ∧
    (t.Miscounted → ∀ d, t.refusal? d = some .autoincrementType) := by
  refine ⟨?_, fun hunfit hcounted => ⟨?_, ?_⟩, refusal_of_miscounted⟩
  · by_cases hcounted : t.Miscounted
    · simp [refusal_of_miscounted hcounted, Overlooked, hcounted]
    · cases hword : t.counter? .postgres with
      | none => simp [refusal_of_no_word hcounted hword, Overlooked, hword]
      | some word =>
        have hsqlite := refusal_of_default hcounted t.counter_sqlite
        rw [refusal_of_counter hcounted hword, Overlooked, hword]
        rcases hsqlite with ⟨hunfit, hsqlite⟩ | ⟨hfit, hsqlite⟩
        · simp [hsqlite, hunfit, hcounted]
        · simp [hsqlite, hfit]
  · exact (refusal_eq_validation_iff hcounted).2 ⟨hunfit, t.counter_sqlite⟩
  · rw [refusal_eq_validation_iff hcounted, Overlooked]
    simp [hunfit, hcounted]

end RecordMapper.ColumnType

namespace RecordMapper.Sample

open ColumnType

def firstKey : ColumnType := .primaryKey (.integer (some (.literal (.text "first")))) true

/-- Only one dialect finds the default of such a key unfit. -/
theorem firstKey_overlooked :
    firstKey.HasUnfitDefault ∧ ¬ firstKey.Miscounted ∧
    firstKey.sql .postgres = .ok "SERIAL PRIMARY KEY" ∧
    firstKey.sql .sqlite = .error (.validation (.badDefault (.text "first") .integer)) ∧
    firstKey.refusal? .postgres ≠ firstKey.refusal? .sqlite :=
  ⟨⟨.text "first", rfl, nofun, rfl⟩, by simp [firstKey, Miscounted, isInteger], rfl, rfl,
    by decide⟩

end RecordMapper.Sample
