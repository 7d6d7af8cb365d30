import RecordMapper.Proofs.Records

namespace RecordMapper

inductive Schema.Refuses (s : Schema) (name : String) (v : Value) : Error → Prop
  | noColumn : s.column? name = none → Refuses s name v (.validation (.noColumn s.table name))
  | denied : s.column? name = some c → c.Denies s.table v e → Refuses s name v e

namespace Schema

theorem index_of_column {s : Schema} {name : String} {c : Column} (h : s.column? name = some c) :
    ∃ i, s.index? name = some i := by
  rw [column?, List.find?_eq_bind_findIdx?_getElem?] at h
  obtain ⟨i, hi, -⟩ := Option.bind_eq_some_iff.1 h
  exact ⟨i, hi⟩

end Schema

theorem Column.Holds.ne_null {c : Column} {v : Value} (h : c.Holds v) (hc : c.nullable = false) :
    v ≠ .null := by
  rintro rfl
  rcases h with ⟨-, hnull⟩ | hvalid
  · simp [hc] at hnull
  · simp [ColumnType.validate, Value.kind?] at hvalid

namespace Record

def assign (r : Record) (name : String) (v : Value) : Except Error Unit × Record :=
  match r.set name v with
  | .ok r' => (.ok (), r')
  | .error e => (.error e, r)

def assignAll (r : Record) (calls : List (String × Value)) : Record :=
  calls.foldl (fun r p => (r.assign p.1 p.2).2) r

theorem assign_cases (r : Record) (name : String) (v : Value) :
    (∃ e, r.schema.Refuses name v e ∧ r.assign name v = (.error e, r)) ∨
      ∃ c i r', r.schema.columns[i]? = some c ∧ r.schema.index? name = some i ∧ c.Holds v ∧
        r.assign name v = (.ok (), r') ∧ r'.schema = r.schema ∧ r'.values = r.values.set i v := by
  cases hset : r.set name v with
  | ok r' =>
    obtain ⟨c, i, hc, hi, hv, hschema, hvalues⟩ := set_cases hset
    exact .inr ⟨c, i, r', hc, hi, hv, by rw [assign, hset], hschema, hvalues⟩
  | error e =>
    refine .inl ⟨e, ?_, by rw [assign, hset]⟩
    rw [set] at hset
    split at hset
    · rename_i c i hc hi
      obtain hcheck | ⟨_, _, habsurd⟩ := except_bind_eq_error hset
      · exact .denied hc (check_eq_error.1 hcheck)
      · contradiction
    · rename_i hnone
      cases hset
      refine .noColumn ?_
      cases hc : r.schema.column? name with
      | none => rfl
      | some c =>
        obtain ⟨i, hi⟩ := Schema.index_of_column hc
        exact absurd hi (hnone c i hc)

theorem assign_of_set {r r' : Record} {name : String} {v : Value} (h : r.set name v = .ok r') :
    (r.assign name v).2 = r' := by
  rw [assign, h]

theorem schema_assign (r : Record) (name : String) (v : Value) :
    (r.assign name v).2.schema = r.schema := by
  rcases assign_cases r name v with ⟨e, -, h⟩ | ⟨c, i, r', -, -, -, h, hschema, -⟩
  · rw [h]
  · rw [h]
    exact hschema

theorem schema_assignAll (r : Record) (calls : List (String × Value)) :
    (r.assignAll calls).schema = r.schema := by
  induction calls generalizing r with
  | nil => rfl
  | cons p calls ih => exact (ih _).trans (schema_assign r p.1 p.2)

theorem assignAll_append (r : Record) (calls more : List (String × Value)) :
    r.assignAll (calls ++ more) = (r.assignAll calls).assignAll more := List.foldl_append

theorem Built.assign {r : Record} (h : r.Built) (name : String) (v : Value) :
    (r.assign name v).2.Built := by
  cases hset : r.set name v with
  | ok r' =>
    rw [assign_of_set hset]
    exact h.set hset
  | error e => simpa [Record.assign, hset] using h

theorem Built.assignAll {r : Record} (h : r.Built) (calls : List (String × Value)) :
    (r.assignAll calls).Built := by
  induction calls generalizing r with
  | nil => exact h
  | cons p calls ih => exact ih (h.assign p.1 p.2)

def Given (r : Record) (i : Nat) : Prop := ∃ v, r.values[i]? = some v ∧ v ≠ .null

theorem given_of_taken {r r' : Record} {i : Nat} {c : Column} {v : Value}
    (hc : r.schema.columns[i]? = some c) (hv : v ≠ .null) (h : r'.values = r.values.set i v) :
    r'.Given i := by
  refine ⟨v, ?_, hv⟩
  have hlt : i < r.values.length := by
    rw [r.length_values]
    exact (List.getElem?_eq_some_iff.1 hc).1
  rw [h, List.getElem?_set_self hlt]

theorem given_of_assign {r : Record} {name : String} {v : Value} {i : Nat} {c : Column}
    (h : (r.assign name v).1 = .ok ()) (hi : r.schema.index? name = some i)
    (hc : r.schema.columns[i]? = some c) (hnull : c.nullable = false) :
    (r.assign name v).2.Given i := by
  rcases assign_cases r name v with ⟨e, -, hleft⟩ | ⟨c', j, r', hc', hj, hv, hleft, -, hvalues⟩
  · rw [hleft] at h
    contradiction
  · cases hj.symm.trans hi
    cases hc'.symm.trans hc
    rw [hleft]
    exact given_of_taken hc (hv.ne_null hnull) hvalues

theorem Given.assign {r : Record} {i : Nat} {c : Column} (h : r.Given i)
    (hc : r.schema.columns[i]? = some c) (hnull : c.nullable = false) (name : String) (v : Value) :
    (r.assign name v).2.Given i := by
  rcases assign_cases r name v with ⟨e, -, hleft⟩ | ⟨c', j, r', hc', -, hv, hleft, -, hvalues⟩
  · rw [hleft]
    exact h
  · rw [hleft]
    by_cases hij : i = j
    · subst hij
      cases hc.symm.trans hc'
      exact given_of_taken hc (hv.ne_null hnull) hvalues
    · obtain ⟨w, hw, hne⟩ := h
      exact ⟨w, by rw [hvalues, List.getElem?_set_ne (Ne.symm hij), hw], hne⟩

theorem Given.assignAll {r : Record} {i : Nat} {c : Column} (h : r.Given i)
    (hc : r.schema.columns[i]? = some c) (hnull : c.nullable = false)
    (calls : List (String × Value)) : (r.assignAll calls).Given i := by
  induction calls generalizing r with
  | nil => exact h
  | cons p calls ih =>
    refine ih (h.assign hc hnull p.1 p.2) ?_
    rwa [schema_assign]

theorem assignAll_of_setAll {r r' : Record} {pairs : List (String × Value)}
    (h : r.setAll pairs = .ok r') : r.assignAll pairs = r' := by
  induction pairs generalizing r with
  | nil => exact Except.ok.inj h
  | cons p pairs ih =>
    obtain ⟨next, hset, hrest⟩ := except_bind_eq_ok h
    rw [assignAll, List.foldl_cons, assign_of_set hset]
    exact ih hrest

theorem given_of_setAll {r r' : Record} {pairs : List (String × Value)}
    (h : r.setAll pairs = .ok r') {name : String} (hname : name ∈ pairs.map Prod.fst) {i : Nat}
    {c : Column} (hi : r.schema.index? name = some i) (hc : r.schema.columns[i]? = some c)
    (hnull : c.nullable = false) : r'.Given i := by
  induction pairs generalizing r with
  | nil => contradiction
  | cons p pairs ih =>
    obtain ⟨next, hset, hrest⟩ := except_bind_eq_ok h
    obtain ⟨c', j, hc', hj, hv, hschema, hvalues⟩ := set_cases hset
    rcases List.mem_cons.1 hname with rfl | hname
    · cases hj.symm.trans hi
      cases hc.symm.trans hc'
      rw [← assignAll_of_setAll hrest]
      exact (given_of_taken hc (hv.ne_null hnull) hvalues).assignAll (hschema ▸ hc) hnull pairs
    · exact ih hrest hname (hschema ▸ hi) (hschema ▸ hc)

theorem setRow_eq_setAll {columns : List Column} {row : List (Value × Value)}
    (h : List.Forall₂ (fun c p => c.type.coerce p.1 = .ok p.2) columns row) (r : Record) :
    r.setRow columns (row.map Prod.fst) =
      r.setAll ((columns.map Column.name).zip (row.map Prod.snd)) := by
  induction h generalizing r with
  | nil => rfl
  | @cons c p columns row hp _ ih =>
    simp only [List.map_cons, List.zip_cons_cons, setRow, setAll, hp, bind, Except.bind]
    cases r.set c.name p.2 with
    | error e => rfl
    | ok next => exact ih next

theorem coerced_of_setRow {columns : List Column} {row : Row} {r r' : Record}
    (hlength : row.length = columns.length) (h : r.setRow columns row = .ok r') :
    ∃ coerced : List (Value × Value), row = coerced.map Prod.fst ∧
      List.Forall₂ (fun c p => c.type.coerce p.1 = .ok p.2) columns coerced := by
  induction columns generalizing r row with
  | nil => exact ⟨[], List.length_eq_zero_iff.1 hlength, .nil⟩
  | cons c columns ih =>
    obtain ⟨v, row, rfl⟩ := List.exists_cons_of_length_eq_add_one hlength
    obtain ⟨w, hw, h⟩ := except_bind_eq_ok h
    obtain ⟨next, -, h⟩ := except_bind_eq_ok h
    obtain ⟨coerced, rfl, hcoerced⟩ := ih (by simpa using hlength) h
    exact ⟨(v, w) :: coerced, rfl, .cons hw hcoerced⟩

theorem given_of_ofRow {s : Schema} {row : Row} {r : Record} (h : ofRow s row = .ok r) {i : Nat}
    {c : Column} (hc : s.columns[i]? = some c) (hi : s.index? c.name = some i)
    (hnull : c.nullable = false) : r.Given i := by
  rw [ofRow] at h
  split at h
  · rename_i hlength
    obtain ⟨coerced, rfl, hcoerced⟩ := coerced_of_setRow hlength h
    rw [setRow_eq_setAll hcoerced] at h
    refine given_of_setAll h ?_ hi hc hnull
    rw [List.map_fst_zip (by simpa using Nat.le_of_eq hlength.symm)]
    exact List.mem_map_of_mem (List.mem_of_getElem? hc)
  · contradiction

end Record

end RecordMapper
