import RecordMapper.Proofs.ColumnType.Settings
import RecordMapper.Proofs.Record.Fields
import RecordMapper.Sample

namespace RecordMapper

namespace FieldType

def name : FieldType → String
  | boolean => "bool"
  | int32 => "i32"
  | int64 => "i64"
  | string => "String"
  | timestamp => "NaiveDateTime"
  | optional inner => "Option<" ++ inner.name ++ ">"

theorem ofName_of_plain {name : List Char} (h : Text.after? optionOpening name = none) :
    ofName? name = match String.ofList name with
      | "bool" => some boolean
      | "i32" => some int32
      | "i64" => some int64
      | "String" => some string
      | "NaiveDateTime" => some timestamp
      | _ => none := by
  rw [ofName?]
  split
  · rename_i rest hrest
    cases h.symm.trans hrest
  · rfl

theorem ofName_optional (name : List Char) :
    ofName? (optionOpening ++ name ++ ['>']) = (ofName? name).map optional := by
  have hafter : Text.after? optionOpening (optionOpening ++ name ++ ['>']) =
      some (name ++ ['>']) := by
    rw [List.append_assoc, Text.after_append]
  rw [ofName?]
  split
  · rename_i rest hrest
    obtain rfl : name ++ ['>'] = rest := Option.some.inj (hafter.symm.trans hrest)
    simp
  · rename_i hnone
    cases hafter.symm.trans hnone

theorem ofName_name (f : FieldType) : ofName? f.name.toList = some f := by
  induction f with
  | optional inner ih =>
    rw [name, String.toList_append, String.toList_append]
    exact (ofName_optional inner.name.toList).trans (congrArg (Option.map optional) ih)
  | _ => exact ofName_of_plain (by decide)

theorem name_injective : Function.Injective name := fun f g h =>
  Option.some.inj ((ofName_name f).symm.trans (h ▸ ofName_name g))

end FieldType

def DeclaredDefault.Fits (x : DeclaredDefault) : Prop := x.default?.isSome = true

instance (x : DeclaredDefault) : Decidable x.Fits := inferInstanceAs (Decidable (_ = true))

namespace DeclaredColumn

def Binds (c : DeclaredColumn) (b : Binding) : Prop := b.column = c.name ∧ c.type = b.type.name

theorem rightUnique_binds : Relator.RightUnique Binds := by
  rintro c ⟨column, f⟩ ⟨column', g⟩ ⟨hcolumn, hf⟩ ⟨hcolumn', hg⟩
  obtain rfl : f = g := FieldType.name_injective (hf.symm.trans hg)
  exact congrArg (Binding.mk · f) (hcolumn.trans hcolumn'.symm)

theorem exists_type {c : DeclaredColumn} (h : ∀ x, c.default = some x → x.Fits) (f : FieldType) :
    ∃ t, c.type? f = some t ∧ t.admits = f.columnType.admits := by
  obtain ⟨settings, hsettings⟩ : ∃ settings, c.settings? = some settings := by
    rw [settings?]
    cases hdefault : c.default with
    | none => exact ⟨_, rfl⟩
    | some x =>
      obtain ⟨y, hy⟩ := Option.isSome_iff_exists.1 (h x hdefault)
      exact ⟨_, congrArg (Option.map _) hy⟩
  rw [type_eq_build, hsettings]
  exact ⟨_, rfl, f.columnType.admits_build settings⟩

theorem exists_column {c : DeclaredColumn} {f : FieldType} (htype : c.type = f.name)
    (h : ∀ x, c.default = some x → x.Fits) :
    ∃ col, c.column? = some (col, ⟨c.name, f⟩) ∧ (⟨c.name, f⟩ : Binding).Fits col := by
  obtain ⟨t, ht, hadmits⟩ := exists_type h f
  refine ⟨{ name := c.name, type := t, unique := c.unique, nullable := f.nullable }, ?_, ?_⟩
  · simp [column?, htype, FieldType.ofName_name, ht]
  · exact ⟨rfl, hadmits, rfl⟩

theorem exists_columns {columns : List DeclaredColumn}
    (h : ∀ c ∈ columns, (∃ f : FieldType, c.type = f.name) ∧ ∀ x, c.default = some x → x.Fits) :
    ∃ pairs : List (Column × Binding), columns.mapM column? = some pairs ∧
      (∀ p ∈ pairs, p.2.Fits p.1) ∧ List.Forall₂ Binds columns (pairs.map Prod.snd) := by
  induction columns with
  | nil => exact ⟨[], rfl, List.forall_mem_nil _, .nil⟩
  | cons c columns ih =>
    obtain ⟨⟨⟨f, hf⟩, hdefault⟩, hrest⟩ := List.forall_mem_cons.1 h
    obtain ⟨col, hcol, hfits⟩ := exists_column hf hdefault
    obtain ⟨pairs, hpairs, hall, hbindings⟩ := ih hrest
    refine ⟨(col, ⟨c.name, f⟩) :: pairs, ?_, List.forall_mem_cons.2 ⟨hfits, hall⟩,
      .cons ⟨rfl, hf⟩ hbindings⟩
    rw [List.mapM_cons, hcol, hpairs]
    rfl

end DeclaredColumn

theorem Expansion.exists_model {e : Expansion} (hnames : (e.columns.map DeclaredColumn.name).Nodup)
    (hcolumns : ∀ c ∈ e.columns,
      (∃ f : FieldType, c.type = f.name) ∧ ∀ x, c.default = some x → x.Fits) :
    ∃ s bs, e.model? = some ⟨bs, .ofBindings e.name s bs⟩ ∧ s.table = e.table ∧ s.Binds bs ∧
      List.Forall₂ DeclaredColumn.Binds e.columns bs := by
  obtain ⟨pairs, hpairs, hfits, hbindings⟩ := DeclaredColumn.exists_columns hcolumns
  have hfits : List.Forall₂ (fun col b => b.Fits col) (pairs.map Prod.fst)
      (pairs.map Prod.snd) := by
    rw [List.forall₂_map_left_iff, List.forall₂_map_right_iff, List.forall₂_same]
    exact hfits
  have hsame : (pairs.map Prod.fst).map Column.name = e.columns.map DeclaredColumn.name := by
    rw [← List.forall₂_eq_eq_eq, List.forall₂_map_left_iff, List.forall₂_map_right_iff]
    exact forall₂_join (fun b col c hcol hc => hcol.name.trans hc.1) hfits.flip hbindings.flip
  refine ⟨_, _, by rw [model?, hpairs]; rfl, rfl, ⟨?_, hfits⟩, hbindings⟩
  rwa [Schema.columnNames, hsame]

/-- A declaration that is accepted, with distinct column names, fields of known types and defaults
that are values, is a model. Every instance of it becomes a record, and comes back as it was stored.
Every record of a row gives an instance, unless a number in it is too large for a field of 32 bits;
the error is then that of such a field. -/
theorem instances_come_back {x : Declaration} {e : Expansion} (hexpand : x.expand = .ok e)
    (hnames : (e.columns.map DeclaredColumn.name).Nodup)
    (hcolumns : ∀ c ∈ e.columns,
      (∃ f : FieldType, c.type = f.name) ∧ ∀ y, c.default = some y → y.Fits) :
    ∃ dm, x.model? = some dm ∧
      List.Forall₂ DeclaredColumn.Binds e.columns dm.bindings ∧
      (∀ as, ∃ r, dm.model.toRecord as = .ok r ∧
        dm.model.ofRecord r = .ok (Fields.cut dm.bindings as)) ∧
      ∀ row r, Record.ofRow dm.model.schema row = .ok r →
        ((∀ p ∈ dm.bindings.zip r.values, p.1.type.Spans p.2) ∧
            ∃ as, dm.model.ofRecord r = .ok as) ∨
          ∃ p ∈ dm.bindings.zip r.values, ∃ i, p.2 = .integer i ∧ ¬ p.1.type.Spans p.2 ∧
            dm.model.ofRecord r =
              .error (.validation (.inField e.table p.1.column (.outOfRange i))) := by
  obtain ⟨s, bs, hmodel, htable, hbinds, hbindings⟩ := Expansion.exists_model hnames hcolumns
  refine ⟨⟨bs, .ofBindings e.name s bs⟩, ?_, hbindings, hbinds.comes_back e.name, fun row r => ?_⟩
  · rw [Declaration.model?, hexpand]
    exact hmodel
  · rw [← htable]
    exact hbinds.reads e.name

namespace Sample

def parcel : Declaration where
  name := "Parcel"
  fields := [
    field "id" "Option<i64>" [flag "primary_key", flag "autoincrement"],
    field "weight" "Option< i32 >" [setting "default" (.number "0x10")],
    field "r#type" "String" [setting "size" (.number "5"), flag "unique"],
    field "sent" "Option<Option<NaiveDateTime>>" [flag "default_now"],
    field "fragile" "Option<Option<bool>>"]

def parcelColumns : List DeclaredColumn := [
  { name := "id", type := "Option<i64>", primaryKey := some true },
  { name := "weight", type := "Option<i32>", default := some (.integer "0x10") },
  { name := "type", type := "String", length := some 5, unique := true },
  { name := "sent", type := "Option<Option<NaiveDateTime>>", default := some .now },
  { name := "fragile", type := "Option<Option<bool>>" }]

def parcelBindings : List Binding := [
  ⟨"id", .optional .int64⟩,
  ⟨"weight", .optional .int32⟩,
  ⟨"type", .string⟩,
  ⟨"sent", .optional (.optional .timestamp)⟩,
  ⟨"fragile", .optional (.optional .boolean)⟩]

theorem parcel_expands : ∃ e, parcel.expand = .ok e ∧ e.columns = parcelColumns := by
  have hcolumns : parcel.expand.toOption.map Expansion.columns = some parcelColumns := by
    decide +kernel
  obtain ⟨e, he, hsame⟩ := Option.map_eq_some_iff.1 hcolumns
  exact ⟨e, ok_of_toOption he, hsame⟩

theorem parcel_typed : ∀ c ∈ parcelColumns,
    (∃ f : FieldType, c.type = f.name) ∧ ∀ x, c.default = some x → x.Fits := by
  simp only [parcelColumns, List.forall_mem_cons]
  refine ⟨⟨⟨.optional .int64, by decide⟩, nofun⟩, ⟨⟨.optional .int32, by decide⟩, ?_⟩,
    ⟨⟨.string, rfl⟩, nofun⟩, ⟨⟨.optional (.optional .timestamp), by decide⟩, ?_⟩,
    ⟨⟨.optional (.optional .boolean), by decide⟩, nofun⟩, List.forall_mem_nil _⟩
  · rintro x ⟨⟩
    decide
  · rintro x ⟨⟩
    rfl

theorem parcel_binds : List.Forall₂ DeclaredColumn.Binds parcelColumns parcelBindings :=
  .cons ⟨rfl, by decide⟩ <| .cons ⟨rfl, by decide⟩ <| .cons ⟨rfl, rfl⟩ <|
    .cons ⟨rfl, by decide⟩ <| .cons ⟨rfl, by decide⟩ .nil

def dusk : Timestamp :=
  ((Date.of? 2024 2 29).bind fun date => Timestamp.of? date 21 15 0 123456789).get (by decide)

def letter (sent : Timestamp) (fragile : Option (Option Bool)) : Fields parcelBindings :=
  .cons (some 7) <| .cons (some (-1)) <| .cons "it's" <| .cons (some (some sent)) <|
    .cons fragile .nil

theorem parcel_comes_back :
    ∃ m : Model (Fields parcelBindings), parcel.model? = some ⟨parcelBindings, m⟩ ∧
      (∃ r, m.toRecord (letter dusk (some none)) = .ok r ∧
        m.ofRecord r = .ok (letter dusk.toMicros none)) ∧
      ∀ row r, Record.ofRow m.schema row = .ok r → r.values[1]? = some (.integer 3000000000) →
        ∀ as, m.ofRecord r ≠ .ok as := by
  obtain ⟨e, hexpand, hcolumns⟩ := parcel_expands
  have hnames : (e.columns.map DeclaredColumn.name).Nodup := by
    rw [hcolumns]
    decide
  obtain ⟨⟨bs, m⟩, hmodel, hbinds, hback, hrows⟩ :=
    instances_come_back hexpand hnames (hcolumns ▸ parcel_typed)
  obtain rfl : bs = parcelBindings :=
    List.right_unique_forall₂' DeclaredColumn.rightUnique_binds hbinds (hcolumns ▸ parcel_binds)
  refine ⟨m, hmodel, hback (letter dusk (some none)), fun row r hr hvalue as has => ?_⟩
  rcases hrows row r hr with ⟨hspans, -⟩ | ⟨p, -, i, -, -, herror⟩
  · have hweight : (parcelBindings.zip r.values)[1]? =
        some (⟨"weight", .optional .int32⟩, .integer 3000000000) :=
      List.getElem?_zip_eq_some.2 ⟨rfl, hvalue⟩
    exact absurd (hspans _ (List.mem_of_getElem? hweight) rfl 3000000000 rfl).2 (by decide)
  · cases has.symm.trans herror

end Sample

end RecordMapper
