import RecordMapper.Model
import RecordMapper.Proofs.Record.Assignments
import RecordMapper.Proofs.Record.Rows

namespace RecordMapper

namespace FieldType

def isNone : (f : FieldType) → f.Carrier → Bool
  | optional _, none => true
  | optional inner, some a => inner.isNone a
  | boolean, _ => false
  | int32, _ => false
  | int64, _ => false
  | string, _ => false
  | timestamp, _ => false

/-- What remains of a field that was stored: timestamps lose what is below a microsecond, and an
option of nothing is nothing. -/
def cut : (f : FieldType) → f.Carrier → f.Carrier
  | timestamp, t => t.toMicros
  | optional _, none => none
  | optional inner, some a => if inner.isNone a then none else some (inner.cut a)
  | boolean, b => b
  | int32, i => i
  | int64, i => i
  | string, s => s

def narrow : FieldType → Bool
  | int32 => true
  | optional inner => inner.narrow
  | _ => false

/-- Whether a value is no number that is too large for the field. -/
def Spans (f : FieldType) (v : Value) : Prop :=
  f.narrow = true → ∀ i : Int64, v = .integer i → -2147483648 ≤ i.toInt ∧ i.toInt ≤ 2147483647

theorem toValue_eq_null {f : FieldType} {a : f.Carrier} :
    f.toValue a = .null ↔ f.isNone a = true := by
  induction f with
  | optional inner ih =>
    cases a with
    | none => exact iff_of_true rfl rfl
    | some a => exact ih
  | timestamp => exact iff_of_false nofun nofun
  | _ => exact iff_of_false nofun nofun

theorem nullable_of_isNone {f : FieldType} {a : f.Carrier} (h : f.isNone a = true) :
    f.nullable = true := by
  cases f with
  | optional inner => rfl
  | _ => contradiction

theorem kind_toValue {f : FieldType} {a : f.Carrier} (h : f.isNone a = false) :
    (f.toValue a).kind? = some f.columnType.admits := by
  induction f with
  | optional inner ih =>
    cases a with
    | none => contradiction
    | some a => exact ih h
  | _ => rfl

theorem ofValue_optional {inner : FieldType} {v : Value} (hv : v ≠ .null) :
    (optional inner).ofValue v = (inner.ofValue v).map some := by
  cases v with
  | null => contradiction
  | _ => rfl

theorem fitsInt32_eq_true {i : Int64} :
    fitsInt32 i = true ↔ -2147483648 ≤ i.toInt ∧ i.toInt ≤ 2147483647 := by
  simp only [fitsInt32, Bool.and_eq_true, decide_eq_true_eq, Int64.le_iff_toInt_le]
  rfl

theorem fitsInt32_toInt64 (i : Int32) : fitsInt32 i.toInt64 = true := by
  rw [fitsInt32_eq_true, Int32.toInt_toInt64]
  exact ⟨i.le_toInt, Int.le_of_lt_add_one i.toInt_lt⟩

theorem ofValue_toValue (f : FieldType) (a : f.Carrier) :
    f.ofValue (f.toValue a) = .ok (f.cut a) := by
  induction f with
  | int32 =>
    simp only [toValue, ofValue, fitsInt32_toInt64, if_true, Int32.toInt32_toInt64]
    rfl
  | optional inner ih =>
    cases a with
    | none => rfl
    | some a =>
      rw [toValue, cut]
      by_cases ha : inner.isNone a = true
      · rw [toValue_eq_null.2 ha, if_pos ha]
        rfl
      · rw [ofValue_optional (mt toValue_eq_null.1 ha), ih, if_neg ha]
        rfl
  | _ => rfl

theorem ofValue_cases {f : FieldType} {v : Value}
    (h : v = .null ∧ f.nullable = true ∨ v.kind? = some f.columnType.admits) :
    (f.Spans v ∧ ∃ a, f.ofValue v = .ok a) ∨
      ∃ i, v = .integer i ∧ ¬ f.Spans v ∧ f.ofValue v = .error (.validation (.outOfRange i)) := by
  -- only options take NULL, and any other value has the one kind that its column admits
  induction f with
  | int32 =>
    obtain ⟨-, ⟨⟩⟩ | hkind := h
    cases v <;> cases hkind
    rename_i i
    by_cases hfits : fitsInt32 i = true
    · refine .inl ⟨fun _ j hj => ?_, i.toInt32, if_pos hfits⟩
      cases hj
      exact fitsInt32_eq_true.1 hfits
    · refine .inr ⟨i, rfl, fun hspans => hfits ?_, if_neg hfits⟩
      exact fitsInt32_eq_true.2 (hspans rfl i rfl)
  | optional inner ih =>
    by_cases hv : v = .null
    · subst hv
      exact .inl ⟨nofun, none, rfl⟩
    · rw [ofValue_optional hv]
      rcases ih (.inr (h.resolve_left fun hnull => hv hnull.1)) with
        ⟨hspans, a, ha⟩ | ⟨i, hi, hspans, herror⟩
      · exact .inl ⟨hspans, some a, by rw [ha]; rfl⟩
      · exact .inr ⟨i, hi, hspans, by rw [herror]; rfl⟩
  | _ =>
    obtain ⟨-, ⟨⟩⟩ | hkind := h
    cases v <;> cases hkind
    exact .inl ⟨nofun, _, rfl⟩

end FieldType

structure Binding.Fits (b : Binding) (c : Column) : Prop where
  name : c.name = b.column
  kind : c.type.admits = b.type.columnType.admits
  nullable : c.nullable = b.type.nullable

theorem Binding.Fits.holds {b : Binding} {c : Column} (h : b.Fits c) (a : b.type.Carrier) :
    c.Holds (b.type.toValue a) := by
  cases ha : b.type.isNone a with
  | true =>
    exact .inl ⟨FieldType.toValue_eq_null.2 ha, h.nullable.trans (FieldType.nullable_of_isNone ha)⟩
  | false =>
    refine .inr ?_
    rw [ColumnType.validate, FieldType.kind_toValue ha, h.kind, decide_eq_true rfl]

theorem Binding.Fits.suits {b : Binding} {c : Column} (h : b.Fits c) {v : Value} (hv : c.Holds v) :
    v = .null ∧ b.type.nullable = true ∨ v.kind? = some b.type.columnType.admits := by
  rw [← h.nullable, ← h.kind]
  exact hv.imp_right fun hvalid => by simpa [ColumnType.validate] using hvalid

namespace Fields

def values : (bs : List Binding) → Fields bs → List Value
  | [], nil => []
  | b :: bs, cons a as => b.type.toValue a :: values bs as

/-- What remains of an instance that was stored. -/
def cut : (bs : List Binding) → Fields bs → Fields bs
  | [], nil => nil
  | b :: bs, cons a as => cons (b.type.cut a) (cut bs as)

theorem holds_values {columns : List Column} {bs : List Binding}
    (h : List.Forall₂ (fun c b => b.Fits c) columns bs) (as : Fields bs) :
    List.Forall₂ Column.Holds columns (values bs as) := by
  induction h with
  | nil =>
    cases as
    exact .nil
  | cons hb _ ih =>
    cases as with
    | cons a as => exact .cons (hb.holds a) (ih as)

theorem toPairs_eq {columns : List Column} {bs : List Binding}
    (h : List.Forall₂ (fun c b => b.Fits c) columns bs) (as : Fields bs) :
    toPairs bs as = (columns.map Column.name).zip (values bs as) := by
  induction h with
  | nil =>
    cases as
    rfl
  | cons hb _ ih =>
    cases as with
    | cons a as => rw [toPairs, values, List.map_cons, List.zip_cons_cons, ih, hb.name]

theorem setAll_toPairs {s : Schema} {bs : List Binding}
    (h : List.Forall₂ (fun c b => b.Fits c) s.columns bs) (hs : s.columnNames.Nodup)
    (as : Fields bs) :
    ∃ r, (Record.empty s).setAll (toPairs bs as) = .ok r ∧ r.schema = s ∧
      r.values = values bs as := by
  have hholds := holds_values h as
  obtain ⟨r, hr, hschema, hvalues⟩ :=
    Record.ofRow_of_takeAll hs hholds.length_eq.symm (Column.takeAll_of_holds hholds)
  refine ⟨r, ?_, hschema, hvalues⟩
  have hcoerce : List.Forall₂ (fun c p => c.type.coerce p.1 = .ok p.2) s.columns
      ((values bs as).map fun v => (v, v)) := by
    rw [List.forall₂_map_right_iff]
    exact hholds.imp fun _ _ hv => hv.takes.1
  have hset := Record.setRow_eq_setAll hcoerce (Record.empty s)
  simp only [List.map_map, Function.comp_def, List.map_id'] at hset
  rw [toPairs_eq h, ← hset]
  rwa [Record.ofRow, if_pos hholds.length_eq.symm] at hr

theorem field_of_get {r : Record} {name : String} {v : Value} (h : r.get? name = some v)
    (f : FieldType) :
    r.field f name = (f.ofValue v).mapError (Record.inField r.schema.table name) := by
  rw [Record.field, h]

theorem ofRecord_values {r : Record} {bs : List Binding} (as : Fields bs)
    (h : List.Forall₂ (fun b v => r.get? b.column = some v) bs (values bs as)) :
    ofRecord r bs = .ok (cut bs as) := by
  induction bs with
  | nil =>
    cases as
    rfl
  | cons b bs ih =>
    cases as with
    | cons a as =>
      obtain ⟨hb, hrest⟩ := List.forall₂_cons.1 h
      rw [ofRecord, field_of_get hb, FieldType.ofValue_toValue, ih as hrest]
      rfl

theorem ofRecord_cases {r : Record} {bs : List Binding} {values : List Value}
    (h : List.Forall₂ (fun b v => r.get? b.column = some v ∧
      (v = .null ∧ b.type.nullable = true ∨ v.kind? = some b.type.columnType.admits)) bs values) :
    ((∀ p ∈ bs.zip values, p.1.type.Spans p.2) ∧ ∃ as, ofRecord r bs = .ok as) ∨
      ∃ p ∈ bs.zip values, ∃ i, p.2 = .integer i ∧ ¬ p.1.type.Spans p.2 ∧
        ofRecord r bs =
          .error (.validation (.inField r.schema.table p.1.column (.outOfRange i))) := by
  induction h with
  | nil => exact .inl ⟨List.forall_mem_nil _, nil, rfl⟩
  | @cons b v bs values hb _ ih =>
    rw [List.zip_cons_cons, ofRecord, field_of_get hb.1]
    rcases FieldType.ofValue_cases hb.2 with ⟨hspans, a, ha⟩ | ⟨i, hi, hspans, herror⟩
    · rw [ha]
      rcases ih with ⟨hall, as, has⟩ | ⟨p, hp, i, hi, hspans', herror⟩
      · exact .inl ⟨List.forall_mem_cons.2 ⟨hspans, hall⟩, cons a as, by rw [has]; rfl⟩
      · exact .inr ⟨p, List.mem_cons_of_mem _ hp, i, hi, hspans', by rw [herror]; rfl⟩
    · exact .inr ⟨(b, v), List.mem_cons_self .., i, hi, hspans, by rw [herror]; rfl⟩

end Fields

structure Schema.Binds (s : Schema) (bs : List Binding) : Prop where
  names : s.columnNames.Nodup
  fits : List.Forall₂ (fun c b => b.Fits c) s.columns bs

theorem forall₂_join {α β γ : Type} {R : α → β → Prop} {S : α → γ → Prop} {T : β → γ → Prop}
    (h : ∀ a b c, R a b → S a c → T b c) {as : List α} {bs : List β} {cs : List γ}
    (hbs : List.Forall₂ R as bs) (hcs : List.Forall₂ S as cs) : List.Forall₂ T bs cs := by
  induction hbs generalizing cs with
  | nil =>
    cases hcs
    exact .nil
  | cons hab _ ih =>
    cases hcs with
    | cons hac hcs => exact .cons (h _ _ _ hab hac) (ih hcs)

theorem Record.get_of_values {r : Record} (hs : r.schema.columnNames.Nodup) :
    List.Forall₂ (fun c v => r.get? c.name = some v) r.schema.columns r.values := by
  rw [List.forall₂_iff_get]
  refine ⟨r.length_values.symm, fun i hi hi' => ?_⟩
  exact (get_of_getElem? hs (List.getElem?_eq_getElem hi)).trans (List.getElem?_eq_getElem hi')

namespace Schema.Binds

variable {s : Schema} {bs : List Binding}

theorem comes_back (h : s.Binds bs) (ident : String) (as : Fields bs) :
    ∃ r, (Model.ofBindings ident s bs).toRecord as = .ok r ∧
      (Model.ofBindings ident s bs).ofRecord r = .ok (Fields.cut bs as) := by
  obtain ⟨r, hr, rfl, hvalues⟩ := Fields.setAll_toPairs h.fits h.names as
  refine ⟨r, hr, Fields.ofRecord_values as ?_⟩
  rw [← hvalues]
  exact forall₂_join (fun c b v hb hv => hb.name ▸ hv) h.fits (Record.get_of_values h.names)

theorem reads (h : s.Binds bs) (ident : String) {row : Row} {r : Record}
    (hr : Record.ofRow s row = .ok r) :
    ((∀ p ∈ bs.zip r.values, p.1.type.Spans p.2) ∧
        ∃ as, (Model.ofBindings ident s bs).ofRecord r = .ok as) ∨
      ∃ p ∈ bs.zip r.values, ∃ i, p.2 = .integer i ∧ ¬ p.1.type.Spans p.2 ∧
        (Model.ofBindings ident s bs).ofRecord r =
          .error (.validation (.inField s.table p.1.column (.outOfRange i))) := by
  obtain ⟨hrow, rfl, htaken⟩ := Record.ofRow_inv h.names hr
  have hget := List.forall₂_iff_zip.1 (Record.get_of_values h.names)
  have hholds := List.forall₂_iff_zip.1 (Column.holds_of_takeAll hrow htaken)
  have hheld : List.Forall₂ (fun c v => r.get? c.name = some v ∧ c.Holds v) r.schema.columns
      r.values :=
    List.forall₂_iff_zip.2 ⟨hget.1, fun hp => ⟨hget.2 hp, hholds.2 hp⟩⟩
  exact Fields.ofRecord_cases <|
    forall₂_join (fun c b v hb hv => ⟨hb.name ▸ hv.1, hb.suits hv.2⟩) h.fits hheld

end Schema.Binds

end RecordMapper
