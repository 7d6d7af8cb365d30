import RecordMapper.Proofs.Builder.Refusal
import RecordMapper.Proofs.Record.Assignments

namespace RecordMapper

theorem Entity.item?_eq_some {x : Entity} {item : InsertItem} :
    x.item? = some item ↔ x.record = .ok item.record ∧ x.ident = item.ident := by
  obtain ⟨ident, record⟩ := item
  rw [item?]
  cases x.record with
  | error e => simp [Except.toOption]
  | ok r =>
    simp only [Except.toOption, Option.map_some, Option.some.injEq, InsertItem.mk.injEq,
      Except.ok.injEq]
    exact and_comm

/-- Whether all that a batch holds are records of one model, bound to its schema. Instances that
give no record may be among them. -/
def OfOneModel (ident : String) (s : Schema) (xs : List Entity) : Prop :=
  ∀ x ∈ xs, x.ident = ident ∧ ∀ r, x.record = .ok r → r.schema = s ∧ r.Built

namespace OfOneModel

variable {ident : String} {s : Schema} {xs : List Entity}

theorem item (h : OfOneModel ident s xs) {item : InsertItem}
    (hitem : item ∈ xs.filterMap Entity.item?) :
    item.ident = ident ∧ item.record.schema = s ∧ item.record.Built := by
  obtain ⟨x, hx, hsome⟩ := List.mem_filterMap.1 hitem
  obtain ⟨hrecord, hident⟩ := Entity.item?_eq_some.1 hsome
  obtain ⟨hsame, hbound⟩ := h x hx
  exact ⟨hident.symm.trans hsame, hbound item.record hrecord⟩

end OfOneModel

theorem Record.Built.literal {r : Record} (h : r.Built) (d : Dialect) {p : Column × Value}
    (hp : p ∈ r.schema.columns.zip r.values) : ∃ sql, p.1.type.literal d p.2 = .ok sql :=
  ColumnType.literal_of_suits d ((List.forall₂_iff_zip.1 h.valid).2 hp)

theorem OfOneModel.written {ident : String} {s : Schema} {xs : List Entity}
    (h : OfOneModel ident s xs) (d : Dialect) :
    ∃ sql?, (Insert.ofItems d xs).toSql = .ok sql? := by
  have hitems := Insert.ofItems_items d xs
  cases hall : xs.filterMap Entity.item? with
  | nil =>
    rw [hall] at hitems
    exact ⟨none, by simp [Insert.toSql, hitems]⟩
  | cons first rest =>
    have hone : ∀ x ∈ first :: rest,
        x.ident = ident ∧ x.record.schema = s ∧ x.record.Built := fun x hx => h.item (hall ▸ hx)
    obtain ⟨hfirst, hschema, -⟩ := hone first (List.mem_cons_self ..)
    rcases Insert.toSql_of_items (hitems.trans hall) with ⟨other, hother, hne, -⟩ | ⟨-, htoSql⟩
    · exact absurd (hfirst.trans (hone other hother).1.symm) hne
    · rw [htoSql]
      cases hrows : (first :: rest).mapM fun x =>
          Insert.rowSql (Insert.ofItems d xs).dialect first.record.schema x.record with
      | ok rows => exact ⟨_, rfl⟩
      | error e =>
        obtain ⟨x, hx, hrow⟩ := mapM_eq_error hrows
        obtain ⟨p, hp, herror⟩ := mapM_eq_error hrow
        obtain ⟨-, hbound, hbuilt⟩ := hone x hx
        rw [hschema, ← hbound] at hp
        obtain ⟨sql, hsql⟩ := hbuilt.literal (Insert.ofItems d xs).dialect hp
        cases hsql.symm.trans herror

namespace Record

theorem Built.kinds {r : Record} (h : r.Built) :
    List.Forall₂ (fun c v => v = .null ∨ v.kind? = some c.type.admits) r.schema.columns
      r.values := by
  refine h.valid.imp fun c v hv => hv.imp_right fun hvalid => ?_
  simpa [ColumnType.validate] using hvalid

theorem Built.real_not_mem {r : Record} (h : r.Built) (x : Floating) : .real x ∉ r.values := by
  intro hx
  obtain ⟨i, hi, hvalue⟩ := List.mem_iff_getElem.1 hx
  have hcolumn : i < r.schema.columns.length := r.length_values ▸ hi
  have hkind := h.kinds.get hcolumn hi
  simp only [List.get_eq_getElem, hvalue, reduceCtorEq, false_or, Value.kind?] at hkind
  exact ColumnType.admits_ne_real _ (Option.some.inj hkind).symm

end Record

/-- Whatever is assigned to a record that was empty or read from a row, it holds one value for each
column, NULL or of the kind that the column admits. An assignment that is refused leaves every value
as it was, one that is taken changes the first column of its name alone, and a column that needs a
value does not lose the one it was given. Of such records every value can be written, and every
batch of one model's is. -/
theorem records_sound (s : Schema) :
    (∀ start : Record, start.Built → start.schema = s → ∀ calls : List (String × Value),
      let r := start.assignAll calls
      (r.schema = s ∧
        List.Forall₂ (fun c v => v = .null ∨ v.kind? = some c.type.admits) s.columns r.values ∧
        ∀ x, .real x ∉ r.values) ∧
      (∀ name v,
        (∃ e, s.Refuses name v e ∧ r.assign name v = (.error e, r)) ∨
          ∃ i r', s.index? name = some i ∧ r.assign name v = (.ok (), r') ∧ r'.schema = s ∧
            r'.values = r.values.set i v) ∧
      (∀ before name v after, calls = before ++ (name, v) :: after →
        ((start.assignAll before).assign name v).1 = .ok () →
        ∀ i c, s.index? name = some i → s.columns[i]? = some c → c.nullable = false →
          r.Given i) ∧
      ∀ row, Record.ofRow s row = .ok start →
        ∀ i c, s.index? c.name = some i → s.columns[i]? = some c → c.nullable = false →
          r.Given i) ∧
    ∀ (ident : String) (xs : List Entity), OfOneModel ident s xs → ∀ d : Dialect,
      (∀ x ∈ xs, ∀ r, x.record = .ok r → ∀ p ∈ s.columns.zip r.values,
        ∃ sql, p.1.type.literal d p.2 = .ok sql) ∧
      ∃ sql?, (Insert.ofItems d xs).toSql = .ok sql? := by
  refine ⟨fun start hstart hschema calls => ?_, fun ident xs hxs d => ?_⟩
  · intro r
    subst hschema
    have hbuilt : r.Built := hstart.assignAll calls
    have hsame : r.schema = start.schema := Record.schema_assignAll start calls
    refine ⟨⟨hsame, hsame ▸ hbuilt.kinds, hbuilt.real_not_mem⟩, fun name v => ?_, ?_, ?_⟩
    · rw [← hsame]
      rcases Record.assign_cases r name v with hrefused | ⟨c, i, r', -, hi, -, htaken⟩
      · exact .inl hrefused
      · exact .inr ⟨i, r', hi, htaken⟩
    · intro before name v after hcalls htaken i c hi hc hnull
      have hbefore : (start.assignAll before).schema = start.schema :=
        Record.schema_assignAll start before
      have hgiven : ((start.assignAll before).assign name v).2.Given i :=
        Record.given_of_assign htaken (hbefore ▸ hi) (hbefore ▸ hc) hnull
      have hrun : r = ((start.assignAll before).assign name v).2.assignAll after := by
        rw [show r = start.assignAll calls from rfl, hcalls, Record.assignAll_append]
        rfl
      rw [hrun]
      refine hgiven.assignAll ?_ hnull after
      rwa [Record.schema_assign, hbefore]
    · intro row hrow i c hi hc hnull
      exact (Record.given_of_ofRow hrow hc hi hnull).assignAll hc hnull calls
  · refine ⟨fun x hx r hr p hp => ?_, hxs.written d⟩
    obtain ⟨rfl, hbuilt⟩ := (hxs x hx).2 r hr
    exact hbuilt.literal d hp

namespace Sample

def locker : Schema where
  table := "locker"
  columns := [
    { name := "key"
      type := .primaryKey (.primaryKey .plainString false) false
      nullable := false },
    { name := "key", type := .plainInteger, nullable := false },
    { name := "since", type := .plainDatetime }]

def locked : Record where
  schema := locker
  -- both columns of the name are set, and the name stands for the first of them
  values := [.text "b", .null, .null]
  length_values := rfl

def lockerRow : Row := [.text "a", .text "b", .null]

def fumbling : List (String × Value) := [
  ("key", .null),
  ("since", .timestamp leapSecond),
  ("kye", .integer 7),
  ("key", .text "c"),
  ("key", .integer 7),
  ("since", .null)]

theorem locked_sound :
    Record.ofRow locker lockerRow = .ok locked ∧
    OfOneModel "Locker" locker [⟨"Locker", .ok (locked.assignAll fumbling)⟩] ∧
    (locked.assignAll fumbling).Given 0 ∧
    ∃ sql?, (Insert.ofItems .postgres [⟨"Locker", .ok (locked.assignAll fumbling)⟩]).toSql =
      .ok sql? := by
  have hrow : Record.ofRow locker lockerRow = .ok locked := rfl
  obtain ⟨hassigned, hbatches⟩ := records_sound locker
  obtain ⟨⟨hschema, -, -⟩, -, -, hgiven⟩ := hassigned locked (.ofRow hrow) rfl fumbling
  have hone : OfOneModel "Locker" locker [⟨"Locker", .ok (locked.assignAll fumbling)⟩] := by
    intro x hx
    obtain rfl := List.mem_singleton.1 hx
    refine ⟨rfl, fun r hr => ?_⟩
    cases hr
    exact ⟨hschema, (Record.Built.ofRow hrow).assignAll fumbling⟩
  exact ⟨hrow, hone, hgiven lockerRow hrow 0 _ rfl rfl rfl, (hbatches "Locker" _ hone .postgres).2⟩

end Sample

end RecordMapper
