import Mathlib.Data.List.Forall2
import Mathlib.Data.List.Nodup
import RecordMapper.Proofs.Except
import RecordMapper.Proofs.Literals
import RecordMapper.Record

namespace RecordMapper

def Column.Holds (c : Column) (v : Value) : Prop :=
  v = .null ∧ c.nullable = true ∨ c.type.validate v = true

inductive Column.Denies (table : String) (c : Column) (v : Value) : Error → Prop
  | notNullable : v = .null → c.nullable = false →
      Denies table c v (.validation (.notNullable table c.name))
  | badValue : v ≠ .null → c.type.validate v = false →
      Denies table c v (.validation (.badValue v table c.name))

theorem Value.validate_kept (t : ColumnType) (v : Value) : t.validate v.kept = t.validate v := by
  cases v <;> rfl

theorem Column.Holds.suits {c : Column} {v : Value} (h : c.Holds v) :
    v = .null ∨ c.type.validate v = true := h.imp And.left id

theorem Column.Holds.kept {c : Column} {v : Value} (h : c.Holds v) : c.Holds v.kept := by
  rcases h with ⟨rfl, hnull⟩ | hvalid
  · exact .inl ⟨rfl, hnull⟩
  · exact .inr ((v.validate_kept c.type).trans hvalid)

namespace Schema

theorem getElem?_of_index {s : Schema} {name : String} {c : Column} {i : Nat}
    (hc : s.column? name = some c) (hi : s.index? name = some i) : s.columns[i]? = some c := by
  rw [column?, List.find?_eq_bind_findIdx?_getElem?] at hc
  rw [index?] at hi
  simpa [hi] using hc

theorem index_of_getElem? {s : Schema} (hs : s.columnNames.Nodup) {c : Column} {i : Nat}
    (h : s.columns[i]? = some c) : s.index? c.name = some i := by
  obtain ⟨hlt, rfl⟩ := List.getElem?_eq_some_iff.1 h
  refine List.findIdx?_eq_some_iff_getElem.2 ⟨hlt, by simp, fun j hj => ?_⟩
  have hi : i < s.columnNames.length := by simpa [columnNames] using hlt
  have hne : s.columnNames.get ⟨j, Nat.lt_trans hj hi⟩ ≠ s.columnNames.get ⟨i, hi⟩ := fun heq =>
    absurd ((List.Nodup.getElem_inj_iff hs).1 heq) (Nat.ne_of_lt hj)
  simpa [columnNames] using hne

theorem column_of_getElem? {s : Schema} (hs : s.columnNames.Nodup) {c : Column} {i : Nat}
    (h : s.columns[i]? = some c) : s.column? c.name = some c := by
  have hi := index_of_getElem? hs h
  rw [column?, List.find?_eq_bind_findIdx?_getElem?]
  rw [index?] at hi
  simpa [hi] using h

end Schema

namespace Record

theorem eq_of_values {r r' : Record} (hschema : r.schema = r'.schema)
    (hvalues : r.values = r'.values) : r = r' := by
  cases r
  cases r'
  cases hschema
  cases hvalues
  rfl

theorem check_eq_ok {table : String} {c : Column} {v : Value} :
    check table c v = .ok () ↔ c.Holds v := by
  by_cases hv : v = .null
  · subst hv
    by_cases hc : c.nullable = true <;>
      simp [check, Column.Holds, hc, ColumnType.validate, Value.kind?]
  · have hnull : v.isNull = false := Bool.eq_false_iff.2 (by simpa using hv)
    by_cases hvalid : c.type.validate v = true <;> simp [check, Column.Holds, hv, hnull, hvalid]

theorem check_eq_error {table : String} {c : Column} {v : Value} {e : Error} :
    check table c v = .error e ↔ c.Denies table v e := by
  constructor
  · intro h
    rw [check] at h
    split at h
    · rename_i hv
      split at h
      · contradiction
      · rename_i hnull
        cases h
        exact .notNullable (Value.isNull_eq_true.1 hv) (Bool.eq_false_iff.2 hnull)
    · rename_i hv
      split at h
      · contradiction
      · rename_i hvalid
        cases h
        exact .badValue (mt Value.isNull_eq_true.2 hv) (Bool.eq_false_iff.2 hvalid)
  · rintro (⟨rfl, hnull⟩ | ⟨hv, hvalid⟩)
    · simp [check, hnull]
    · simp [check, hv, hvalid]

theorem set_cases {r r' : Record} {name : String} {v : Value} (h : r.set name v = .ok r') :
    ∃ c i, r.schema.columns[i]? = some c ∧ r.schema.index? name = some i ∧ c.Holds v ∧
      r'.schema = r.schema ∧ r'.values = r.values.set i v := by
  rw [set] at h
  split at h
  · rename_i c i hc hi
    obtain ⟨_, hcheck, h⟩ := except_bind_eq_ok h
    cases h
    exact ⟨c, i, Schema.getElem?_of_index hc hi, hi, check_eq_ok.1 hcheck, rfl, rfl⟩
  · contradiction

theorem set_eq_ok {r : Record} (hs : r.schema.columnNames.Nodup) {c : Column} {i : Nat} {v : Value}
    (hc : r.schema.columns[i]? = some c) (hv : c.Holds v) :
    ∃ r', r.set c.name v = .ok r' ∧ r'.schema = r.schema ∧ r'.values = r.values.set i v := by
  rw [set, Schema.column_of_getElem? hs hc, Schema.index_of_getElem? hs hc]
  simp only [check_eq_ok.2 hv, bind, Except.bind, pure, Except.pure]
  exact ⟨_, rfl, rfl, rfl⟩

/-- Records as they arise: empty, read from a row, and with further values set. -/
inductive Built : Record → Prop
  | empty (s : Schema) : Built (empty s)
  | ofRow : Record.ofRow s row = .ok r → Built r
  | set : Built r → r.set name v = .ok r' → Built r'

/-- Whether no column that needs a value is left without one. -/
def Complete (r : Record) : Prop :=
  ∀ p ∈ r.schema.columns.zip r.values, p.2 = .null → p.1.nullable = true

instance (r : Record) : Decidable r.Complete :=
  inferInstanceAs
    (Decidable (∀ p ∈ r.schema.columns.zip r.values, p.2 = .null → p.1.nullable = true))

def Valid (r : Record) : Prop :=
  List.Forall₂ (fun c v => v = .null ∨ c.type.validate v = true) r.schema.columns r.values

theorem forall₂_set {α β : Type} {R : α → β → Prop} {as : List α} {bs : List β} {a : α} {b : β}
    {i : Nat} (h : List.Forall₂ R as bs) (ha : as[i]? = some a) (hab : R a b) :
    List.Forall₂ R as (bs.set i b) := by
  induction h generalizing i with
  | nil => simp at ha
  | cons hhead htail ih =>
    cases i with
    | zero =>
      cases ha
      exact .cons hab htail
    | succ i => exact .cons hhead (ih ha)

theorem valid_empty (s : Schema) : (empty s).Valid := by
  rw [Valid, List.forall₂_iff_get]
  refine ⟨(empty s).length_values.symm, fun i _ _ => .inl ?_⟩
  simp [empty]

theorem Valid.set {r r' : Record} {name : String} {v : Value} (hr : r.Valid)
    (h : r.set name v = .ok r') : r'.Valid := by
  obtain ⟨c, i, hc, _, hv, hschema, hvalues⟩ := set_cases h
  rw [Valid, hschema, hvalues]
  exact forall₂_set hr hc (hv.imp And.left id)

theorem Valid.setRow {columns : List Column} {row : Row} {r r' : Record} (hr : r.Valid)
    (h : r.setRow columns row = .ok r') : r'.Valid := by
  induction columns generalizing r row with
  | nil =>
    cases h
    exact hr
  | cons c columns ih =>
    cases row with
    | nil =>
      cases h
      exact hr
    | cons v row =>
      obtain ⟨w, _, h⟩ := except_bind_eq_ok h
      obtain ⟨next, hset, h⟩ := except_bind_eq_ok h
      exact ih (hr.set hset) h

theorem Built.valid {r : Record} (h : r.Built) : r.Valid := by
  induction h with
  | empty s => exact valid_empty s
  | ofRow hrow =>
    rw [Record.ofRow] at hrow
    split at hrow
    · exact (valid_empty _).setRow hrow
    · contradiction
  | set _ hset ih => exact ih.set hset

theorem Built.holds {r : Record} (h : r.Built) (hr : r.Complete) :
    List.Forall₂ Column.Holds r.schema.columns r.values := by
  have hvalid := List.forall₂_iff_zip.1 h.valid
  refine List.forall₂_iff_zip.2 ⟨hvalid.1, fun {c v} hmem => ?_⟩
  rcases hvalid.2 hmem with hnull | hsuits
  · exact .inl ⟨hnull, hr _ hmem hnull⟩
  · exact .inr hsuits

end Record

end RecordMapper
