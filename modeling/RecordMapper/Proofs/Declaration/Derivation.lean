import RecordMapper.Proofs.Declaration.Instances
import RecordMapper.Proofs.Declaration.Options

/-!
Declarations that are accepted, and what they stand for.
Main statement: a declaration is accepted exactly if its fields are consistent, the schema has their
columns and foreign keys in order, and neither depends on the order of the attributes.
-/

namespace RecordMapper

theorem DeclaredColumn.type_eq {c : DeclaredColumn} (h : ∀ x, c.default = some x → x.Fits)
    (t : FieldType) : c.type? t =
      let sized := c.length.elim t.columnType fun n => t.columnType.withLength n
      let defaulted := (c.default.bind (·.default?)).elim sized fun x => sized.withDefault x
      some (c.primaryKey.elim defaulted fun counted => .primaryKey defaulted counted) := by
  rw [type?]
  cases hx : c.default with
  | none => rfl
  | some x =>
    obtain ⟨y, hy⟩ := Option.isSome_iff_exists.1 (h x hx)
    simp [hy]

namespace FieldDeclaration

variable (f : FieldDeclaration)

def constant : List Char := Text.shoutCase (f.columnName f.said).toList

structure Sound : Prop where
  wellFormed : f.WellFormed
  consistent : f.Consistent
  constant : Text.isIdentifier f.constant = true

def heldByDefault : Option DeclaredDefault :=
  f.said.default.or (if f.said.defaultNow then some .now else none)

def columnOf (t : FieldType) : Column :=
  let sized := f.said.size.elim t.columnType fun n => t.columnType.withLength n
  let defaulted := (f.heldByDefault.bind (·.default?)).elim sized fun x => sized.withDefault x
  { name := f.columnName f.said
    type := if f.said.primaryKey then .primaryKey defaulted f.said.autoincrement else defaulted
    unique := f.said.unique
    nullable := t.nullable }

theorem column_said {t : FieldType} (htype : withoutBlanks f.type = t.name)
    (hdefault : ∀ x, f.said.default = some x → x.Fits) :
    (f.column f.said).column? = some (f.columnOf t, ⟨f.columnName f.said, t⟩) := by
  have hname : FieldType.ofName? (f.column f.said).type.toList = some t :=
    (congrArg (FieldType.ofName? ·.toList) htype).trans (FieldType.ofName_name t)
  have hfits : ∀ x, (f.column f.said).default = some x → x.Fits := by
    intro x hx
    rcases Option.or_eq_some_iff.1 hx with hx | ⟨_, hx⟩
    · exact hdefault x hx
    · obtain ⟨_, hx⟩ := Option.ite_none_right_eq_some.1 hx
      cases hx
      rfl
  have htypes : (f.column f.said).type? t = some (f.columnOf t).type := by
    rw [DeclaredColumn.type_eq hfits, column, columnOf]
    cases f.said.primaryKey <;> rfl
  rw [DeclaredColumn.column?, hname]
  simp only [Option.bind_eq_bind, Option.bind_some, htypes]
  rfl

end FieldDeclaration

def Expansion.withField (e : Expansion) (f : FieldDeclaration) : Expansion :=
  { e with
    columns := e.columns ++ [f.column f.said]
    foreignKeys := e.foreignKeys ++ (f.foreignKey? e.table f.said).toList
    fields := e.fields ++ [(f.name, f.columnName f.said)]
    constants := e.constants ++ [(String.ofList f.constant, f.columnName f.said)] }

namespace Declaration

theorem identifier_eq_ok {name : List Char} {s : String} :
    identifier name = .ok s ↔ Text.isIdentifier name = true ∧ String.ofList name = s := by
  rw [identifier]
  split <;> simp_all

theorem expandField_eq_ok {e e' : Expansion} {f : FieldDeclaration} :
    expandField e f = .ok e' ↔ f.Sound ∧ e.withField f = e' := by
  constructor
  · intro h
    obtain ⟨o, ho, h⟩ := except_bind_eq_ok h
    obtain ⟨hform, hsense, rfl⟩ := FieldDeclaration.options_eq_ok.1 ho
    obtain ⟨constant, hconstant, h⟩ := except_bind_eq_ok h
    obtain ⟨hidentifier, rfl⟩ := identifier_eq_ok.1 hconstant
    exact ⟨⟨hform, hsense, hidentifier⟩, Except.ok.inj h⟩
  · rintro ⟨⟨hform, hsense, hidentifier⟩, rfl⟩
    have hconstant : identifier f.constant = .ok (String.ofList f.constant) :=
      identifier_eq_ok.2 ⟨hidentifier, rfl⟩
    rw [FieldDeclaration.constant] at hconstant
    rw [expandField, FieldDeclaration.options_eq_ok.2 ⟨hform, hsense, rfl⟩]
    simp only [bind, Except.bind, hconstant]
    rfl

theorem foldlM_expandField {fields : List FieldDeclaration} {e e' : Expansion} :
    fields.foldlM expandField e = .ok e' ↔
      (∀ f ∈ fields, f.Sound) ∧ fields.foldl Expansion.withField e = e' := by
  induction fields generalizing e with
  | nil => simp [pure, Except.pure]
  | cons f fields ih =>
    rw [List.foldlM_cons, List.forall_mem_cons, List.foldl_cons]
    constructor
    · intro h
      obtain ⟨_, hf, h⟩ := except_bind_eq_ok h
      obtain ⟨hsound, rfl⟩ := expandField_eq_ok.1 hf
      obtain ⟨hfields, he⟩ := ih.1 h
      exact ⟨⟨hsound, hfields⟩, he⟩
    · rintro ⟨⟨hsound, hfields⟩, he⟩
      rw [expandField_eq_ok.2 ⟨hsound, rfl⟩]
      exact ih.2 ⟨hfields, he⟩

theorem foldl_withField (fields : List FieldDeclaration) (e : Expansion) :
    fields.foldl Expansion.withField e = { e with
      columns := e.columns ++ fields.map fun f => f.column f.said
      foreignKeys := e.foreignKeys ++ fields.filterMap fun f => f.foreignKey? e.table f.said
      fields := e.fields ++ fields.map fun f => (f.name, f.columnName f.said)
      constants := e.constants ++
        fields.map fun f => (String.ofList f.constant, f.columnName f.said) } := by
  induction fields generalizing e with
  | nil => simp
  | cons f fields ih =>
    rw [List.foldl_cons, ih]
    cases hkey : f.foreignKey? e.table f.said <;> simp [Expansion.withField, hkey]

structure Titled (x : Declaration) : Prop where
  attributes : ∀ a ∈ x.attributes, a.isSome = true
  items : ∀ item ∈ allItems x.attributes, item.key = "table" ∧ ∃ s, item.literal = some (.text s)

def tableName (x : Declaration) : String :=
  (lastOf (allItems x.attributes) "table" AttributeItem.text).getD
    (String.ofList (Text.snakeCase (bareName x.name).toList))

theorem table_eq_ok {x : Declaration} {table : String} :
    x.table = .ok table ↔ x.Titled ∧ x.tableName = table := by
  have hfold {o : Option String} : (allItems x.attributes).foldlM tableItem none = .ok o ↔
      (∀ item ∈ allItems x.attributes,
        item.key = "table" ∧ ∃ s, item.literal = some (.text s)) ∧
      lastOf (allItems x.attributes) "table" AttributeItem.text = o := by
    refine foldlM_meaning (m := fun items => lastOf items "table" AttributeItem.text)
      (fun o item => ?_) fun {items item o} h => ?_
    · rw [tableItem]
      by_cases hkey : item.key = "table"
      · rw [if_pos hkey, AttributeItem.exists_bind_pure]
        simp [AttributeItem.text_eq_ok, hkey]
      · simp [hkey]
    · rw [tableItem] at h
      split at h
      · rename_i hkey
        obtain ⟨s, hs, h⟩ := except_bind_eq_ok h
        obtain rfl := Except.ok.inj h
        rw [lastOf_append, if_pos hkey, hs]
        rfl
      · cases h
  constructor
  · intro h
    obtain ⟨named, hnamed, h⟩ := except_bind_eq_ok h
    obtain ⟨hattributes, hnamed⟩ := foldItems_eq_ok.1 hnamed
    obtain ⟨hitems, rfl⟩ := hfold.1 hnamed
    exact ⟨⟨hattributes, hitems⟩, Except.ok.inj h⟩
  · rintro ⟨⟨hattributes, hitems⟩, rfl⟩
    rw [table, foldItems_eq_ok.2 ⟨hattributes, hfold.2 ⟨hitems, rfl⟩⟩]
    rfl

def constants (x : Declaration) : List Char :=
  Text.snakeCase (bareName x.name).toList ++ "_fields".toList

structure Sound (x : Declaration) : Prop where
  shape : x.shape = .struct
  titled : x.Titled
  fields : ∀ f ∈ x.fields, f.Sound
  constants : Text.isIdentifier x.constants = true

def expansion (x : Declaration) : Expansion where
  name := x.name
  table := x.tableName
  columns := x.fields.map fun f => f.column f.said
  foreignKeys := x.fields.filterMap fun f => f.foreignKey? x.tableName f.said
  fields := x.fields.map fun f => (f.name, f.columnName f.said)
  visibility := withoutBlanks x.visibility
  moduleName := String.ofList x.constants
  constants := x.fields.map fun f => (String.ofList f.constant, f.columnName f.said)

theorem expand_eq_ok {x : Declaration} {e : Expansion} :
    x.expand = .ok e ↔ x.Sound ∧ x.expansion = e := by
  have hshape : x.checkShape = .ok () ↔ x.shape = .struct := by
    rw [checkShape]
    cases x.shape <;> simp
  constructor
  · intro h
    obtain ⟨_, hstruct, h⟩ := except_bind_eq_ok h
    obtain ⟨table, htable, h⟩ := except_bind_eq_ok h
    obtain ⟨htitled, rfl⟩ := table_eq_ok.1 htable
    obtain ⟨e', hfields, h⟩ := except_bind_eq_ok h
    obtain ⟨hsound, rfl⟩ := foldlM_expandField.1 hfields
    obtain ⟨name, hname, h⟩ := except_bind_eq_ok h
    obtain ⟨hidentifier, rfl⟩ := identifier_eq_ok.1 hname
    refine ⟨⟨hshape.1 hstruct, htitled, hsound, hidentifier⟩, ?_⟩
    rw [← Except.ok.inj h, foldl_withField]
    simp [expansion, constants]
  · rintro ⟨⟨hstruct, htitled, hsound, hidentifier⟩, rfl⟩
    have hname : identifier x.constants = .ok (String.ofList x.constants) :=
      identifier_eq_ok.2 ⟨hidentifier, rfl⟩
    rw [constants] at hname
    rw [expand, hshape.2 hstruct, table_eq_ok.2 ⟨htitled, rfl⟩]
    simp only [bind, Except.bind, foldlM_expandField.2 ⟨hsound, rfl⟩, hname]
    rw [foldl_withField]
    simp [expansion, constants, pure, Except.pure]

theorem columns_said {fields : List FieldDeclaration} {types : List FieldType}
    (htypes : List.Forall₂ (fun f t => withoutBlanks f.type = t.name) fields types)
    (hdefaults : ∀ f ∈ fields, ∀ d, f.said.default = some d → d.Fits) :
    ∃ bs : List Binding, (fields.map fun f => f.column f.said).mapM DeclaredColumn.column? =
      some ((List.zipWith FieldDeclaration.columnOf fields types).zip bs) ∧
        bs.length = (List.zipWith FieldDeclaration.columnOf fields types).length := by
  induction htypes with
  | nil => exact ⟨[], rfl, rfl⟩
  | @cons f t fields types htype _ ih =>
    obtain ⟨hdefault, hrest⟩ := List.forall_mem_cons.1 hdefaults
    obtain ⟨bs, hbs, hlength⟩ := ih hrest
    refine ⟨⟨f.columnName f.said, t⟩ :: bs, ?_, congrArg Nat.succ hlength⟩
    rw [List.map_cons, List.mapM_cons, FieldDeclaration.column_said f htype hdefault, hbs]
    rfl

theorem model_expansion {x : Declaration} {types : List FieldType}
    (htypes : List.Forall₂ (fun f t => withoutBlanks f.type = t.name) x.fields types)
    (hdefaults : ∀ f ∈ x.fields, ∀ d, f.said.default = some d → d.Fits) :
    ∃ dm, x.expansion.model? = some dm ∧ dm.model.schema = {
      table := x.tableName
      columns := List.zipWith FieldDeclaration.columnOf x.fields types
      foreignKeys := x.expansion.foreignKeys } := by
  obtain ⟨bs, hbs, hlength⟩ := columns_said htypes hdefaults
  have hcolumns : x.expansion.columns.mapM DeclaredColumn.column? =
      some ((List.zipWith FieldDeclaration.columnOf x.fields types).zip bs) := hbs
  refine ⟨_, by rw [Expansion.model?, hcolumns]; rfl, ?_⟩
  show Schema.mk _
    (((List.zipWith FieldDeclaration.columnOf x.fields types).zip bs).map Prod.fst) _ = _
  rw [List.map_fst_zip hlength.ge]
  rfl

end Declaration

theorem lastOf_of_reordered {α : Type} {items items' : List AttributeItem}
    (h : Reordered AttributeItem.key items items') (key : String)
    (read : AttributeItem → Except DeclarationError α) :
    lastOf items key read = lastOf items' key read := by
  rw [lastOf, lastOf, h.last]

theorem mentions_of_reordered {items items' : List AttributeItem}
    (h : Reordered AttributeItem.key items items') (key : String) :
    mentions items key = mentions items' key :=
  h.perm.any_eq

theorem ColumnOptions.ofItems_of_reordered {items items' : List AttributeItem}
    (h : Reordered AttributeItem.key items items') : ofItems items = ofItems items' := by
  simp only [ofItems, lastOf_of_reordered h, mentions_of_reordered h]

namespace FieldDeclaration

/-- Whether two fields differ at most in the order of items with distinct keys, and in how items
are put into attributes. -/
structure Rearranged (f g : FieldDeclaration) : Prop where
  name : f.name = g.name
  type : f.type = g.type
  attributes : ∀ a ∈ f.attributes ++ g.attributes, a.isSome = true
  items : f.items = g.items ∨ f.items.Perm g.items ∧ (f.items.map AttributeItem.key).Nodup

variable {f g : FieldDeclaration}

theorem Rearranged.reordered (h : f.Rearranged g) :
    Reordered AttributeItem.key f.items g.items := by
  rcases h.items with hitems | ⟨hperm, hkeys⟩
  · exact hitems ▸ fun _ => rfl
  · exact .of_perm hperm hkeys

theorem Rearranged.symm (h : f.Rearranged g) : g.Rearranged f where
  name := h.name.symm
  type := h.type.symm
  attributes := fun a ha => h.attributes a (by simpa [or_comm] using ha)
  items := h.items.imp Eq.symm fun ⟨hperm, hkeys⟩ =>
    ⟨hperm.symm, (hperm.map AttributeItem.key).nodup_iff.1 hkeys⟩

theorem Rearranged.said (h : f.Rearranged g) : f.said = g.said :=
  ColumnOptions.ofItems_of_reordered h.reordered

theorem Rearranged.columnName (h : f.Rearranged g) : f.columnName f.said = g.columnName g.said := by
  rw [FieldDeclaration.columnName, FieldDeclaration.columnName, h.said, h.name]

theorem Rearranged.sound (h : f.Rearranged g) (hf : f.Sound) : g.Sound := by
  have hmem {item : AttributeItem} (hitem : item ∈ g.items) : item ∈ f.items :=
    h.reordered.perm.mem_iff.2 hitem
  have hmentions := mentions_of_reordered h.reordered
  refine ⟨⟨fun a ha => h.attributes a (List.mem_append_right _ ha),
    fun item hitem => hf.wellFormed.items item (hmem hitem)⟩,
    ⟨fun item hitem => hf.consistent.sensible item (hmem hitem), ?_, ?_, ?_⟩, ?_⟩
  · simpa only [hmentions] using hf.consistent.counted
  · simpa only [hmentions] using hf.consistent.oneDefault
  · simpa only [hmentions] using hf.consistent.joined
  · have hconstant := hf.constant
    rwa [constant, h.columnName] at hconstant

end FieldDeclaration

theorem map_eq_of_forall₂ {α β : Type} {R : α → α → Prop} {F : α → β} {as bs : List α}
    (h : List.Forall₂ R as bs) (hF : ∀ a b, R a b → F a = F b) : as.map F = bs.map F := by
  rw [← List.forall₂_eq_eq_eq, List.forall₂_map_left_iff, List.forall₂_map_right_iff]
  exact h.imp hF

theorem forall_mem_of_forall₂ {α : Type} {R : α → α → Prop} {P : α → Prop} {as bs : List α}
    (h : List.Forall₂ R as bs) (hP : ∀ a b, R a b → P a → P b) (has : ∀ a ∈ as, P a) :
    ∀ b ∈ bs, P b := by
  induction h with
  | nil => exact has
  | cons hab _ ih =>
    obtain ⟨ha, hrest⟩ := List.forall_mem_cons.1 has
    exact List.forall_mem_cons.2 ⟨hP _ _ hab ha, ih hrest⟩

namespace Declaration

variable {x : Declaration} {fields : List FieldDeclaration}

theorem Sound.rearranged (hx : x.Sound)
    (h : List.Forall₂ FieldDeclaration.Rearranged x.fields fields) : { x with fields }.Sound :=
  ⟨hx.shape, ⟨hx.titled.attributes, hx.titled.items⟩,
    forall_mem_of_forall₂ h (fun _ _ => FieldDeclaration.Rearranged.sound) hx.fields, hx.constants⟩

theorem expansion_rearranged (h : List.Forall₂ FieldDeclaration.Rearranged x.fields fields) :
    { x with fields }.expansion = x.expansion := by
  have hmap {α : Type} {F : FieldDeclaration → α} (hF : ∀ f g, f.Rearranged g → F f = F g) :
      fields.map F = x.fields.map F := (map_eq_of_forall₂ h hF).symm
  have hkeys := hmap (F := fun f => f.foreignKey? x.tableName f.said) fun f g hfg => by
    rw [FieldDeclaration.foreignKey?, FieldDeclaration.foreignKey?, hfg.columnName, hfg.said]
  have hfilter (fs : List FieldDeclaration) :
      fs.filterMap (fun f => f.foreignKey? x.tableName f.said) =
        (fs.map fun f => f.foreignKey? x.tableName f.said).filterMap id := by
    rw [List.filterMap_map]
    rfl
  rw [expansion, expansion]
  congr 1
  · exact hmap fun f g hfg => by
      rw [FieldDeclaration.column, FieldDeclaration.column, hfg.columnName, hfg.said, hfg.type]
  · exact (hfilter fields).trans ((congrArg _ hkeys).trans (hfilter x.fields).symm)
  · exact hmap fun f g hfg => by rw [hfg.columnName, hfg.name]
  · exact hmap fun f g hfg => by
      rw [FieldDeclaration.constant, FieldDeclaration.constant, hfg.columnName]

theorem expand_rearranged (h : List.Forall₂ FieldDeclaration.Rearranged x.fields fields)
    (e : Expansion) : x.expand = .ok e ↔ { x with fields }.expand = .ok e := by
  have hback : List.Forall₂ FieldDeclaration.Rearranged { x with fields }.fields x.fields :=
    (h.imp fun _ _ => FieldDeclaration.Rearranged.symm).flip
  rw [expand_eq_ok, expand_eq_ok, expansion_rearranged h]
  exact and_congr_left' ⟨fun hx => hx.rearranged h, fun hx => hx.rearranged hback⟩

end Declaration

open Declaration

/-- A declaration is accepted exactly if it is a structure, its own attributes give names to its
table and nothing else, its fields are consistent, and the constants for their columns and the
module of these have names. Its schema then has one column for each field and one foreign key for
each that is asked for, in the order of the fields. Neither changes with the order of items that
have distinct keys, or with the attributes that they are put into. -/
theorem declarations_exact (x : Declaration) :
    ((∃ e, x.expand = .ok e) ↔ x.Sound) ∧
    (∀ e, x.expand = .ok e →
      e.table = x.tableName ∧
      e.columns = x.fields.map (fun f => f.column f.said) ∧
      e.foreignKeys = x.fields.filterMap (fun f => f.foreignKey? x.tableName f.said) ∧
      ∀ types : List FieldType,
        List.Forall₂ (fun f t => withoutBlanks f.type = t.name) x.fields types →
        (∀ f ∈ x.fields, ∀ d, f.said.default = some d → d.Fits) →
        ∃ dm, x.model? = some dm ∧ dm.model.schema = {
          table := x.tableName
          columns := List.zipWith FieldDeclaration.columnOf x.fields types
          foreignKeys := e.foreignKeys }) ∧
    ∀ fields : List FieldDeclaration, List.Forall₂ FieldDeclaration.Rearranged x.fields fields →
      ∀ e, x.expand = .ok e ↔ { x with fields }.expand = .ok e := by
  refine ⟨⟨?_, fun hx => ⟨_, expand_eq_ok.2 ⟨hx, rfl⟩⟩⟩, ?_, fun fields => expand_rearranged⟩
  · rintro ⟨e, he⟩
    exact (expand_eq_ok.1 he).1
  · rintro e he
    obtain ⟨-, rfl⟩ := expand_eq_ok.1 he
    refine ⟨rfl, rfl, rfl, fun types htypes hdefaults => ?_⟩
    rw [model?, he]
    exact model_expansion htypes hdefaults

namespace Sample

def loan : Declaration where
  name := "Loan"
  fields := [
    field "id" "Option<i64>" [flag "primary_key", flag "autoincrement"],
    field "r#type" "String" [
      setting "size" (.number "8"), setting "default" (.text "short"), flag "unique"],
    field "reader" "i64" [
      setting "foreign_key" (.text "readers::id"), setting "on_delete" (.text "SET_NULL"),
      setting "name" (.text "reader_id")]]

def loanTypes : List FieldType := [.optional .int64, .string, .int64]

def loanFields : List FieldDeclaration := [
  { name := "id", type := "Option<i64>"
    attributes := [some [flag "autoincrement"], some [flag "primary_key"]] },
  { name := "r#type", type := "String"
    attributes := [
      some [flag "unique", setting "size" (.number "8")],
      some [setting "default" (.text "short")]] },
  { name := "reader", type := "i64"
    attributes := [
      some [setting "name" (.text "reader_id")], some [],
      some [setting "on_delete" (.text "SET_NULL"), setting "foreign_key" (.text "readers::id")]] }]

theorem loan_expands : ∃ e, loan.expand = .ok e := by
  have hsome : loan.expand.toOption.isSome = true := by decide +kernel
  exact (Option.isSome_iff_exists.1 hsome).imp fun _ => ok_of_toOption

theorem loan_typed :
    List.Forall₂ (fun f t => withoutBlanks f.type = t.name) loan.fields loanTypes :=
  .cons (by decide) <| .cons rfl <| .cons rfl .nil

theorem loan_defaults : ∀ f ∈ loan.fields, ∀ d, f.said.default = some d → d.Fits := by
  have hdefaults : ∀ f ∈ loan.fields, ∀ d ∈ f.said.default, d.Fits := by decide +kernel
  exact hdefaults

theorem loan_rearranged : List.Forall₂ FieldDeclaration.Rearranged loan.fields loanFields :=
  .cons ⟨rfl, rfl, by decide, .inr (by decide)⟩ <|
    .cons ⟨rfl, rfl, by decide, .inr (by decide)⟩ <|
      .cons ⟨rfl, rfl, by decide, .inr (by decide)⟩ .nil

def loanSchema : Schema where
  table := "loan"
  columns := [
    { name := "id", type := .primaryKey .plainInteger true },
    { name := "type", type := .string 8 (some (.literal (.text "short"))), unique := true
      nullable := false },
    { name := "reader_id", type := .plainInteger, nullable := false }]
  foreignKeys := [{
    name := "fk_loan_reader_id", keyColumn := "reader_id", parentTable := "readers"
    parentKeyColumns := "id", onDelete := some .setNull }]

theorem loan_derived :
    (∃ e, loan.expand = .ok e) ∧
    List.Forall₂ (fun f t => withoutBlanks f.type = t.name) loan.fields loanTypes ∧
    (∀ f ∈ loan.fields, ∀ d, f.said.default = some d → d.Fits) ∧
    List.Forall₂ FieldDeclaration.Rearranged loan.fields loanFields ∧
    loan.Sound ∧
    ∃ e dm, { loan with fields := loanFields }.expand = .ok e ∧ loan.expand = .ok e ∧
      loan.model? = some dm ∧ dm.model.schema = loanSchema := by
  refine ⟨loan_expands, loan_typed, loan_defaults, loan_rearranged, ?_⟩
  obtain ⟨haccepted, hschema, horder⟩ := declarations_exact loan
  obtain ⟨e, he⟩ := loan_expands
  obtain ⟨-, -, hkeys, hmodel⟩ := hschema e he
  obtain ⟨dm, hdm, hdescribed⟩ := hmodel loanTypes loan_typed loan_defaults
  refine ⟨haccepted.1 loan_expands, e, dm, (horder loanFields loan_rearranged e).1 he, he, hdm,
    hdescribed.trans ?_⟩
  rw [hkeys]
  decide +kernel

def numbered : Declaration := { name := "_1", fields := [] }

def mistitled : Declaration where
  name := "Shelf"
  attributes := [some [setting "tables" (.text "shelf")]]
  fields := []

def endless : FieldDeclaration :=
  field "title" "String" [setting "size" (.number "18446744073709551616")]

/-- Consistent fields do not make a structure acceptable, nor does what is well formed always make
sense. -/
theorem consistent_refused :
    (numbered.shape = .struct ∧ numbered.attributes = [] ∧ numbered.fields = [] ∧
      numbered.expand = .error (.badName "1_fields")) ∧
    (mistitled.shape = .struct ∧ mistitled.fields = [] ∧ mistitled.expand = .error .notTable) ∧
    (∀ item ∈ endless.items, item.WellFormed ∧ item.key = "size") ∧
      Text.isIdentifier endless.constant = true ∧
      ({ name := "Shelf", fields := [endless] } : Declaration).expand = .error .sizeTooLarge := by
  have hsize : (IntegerLiteral.read? "18446744073709551616".toList).isSome = true := by
    decide +kernel
  refine ⟨⟨rfl, rfl, rfl, ?_⟩, ⟨rfl, rfl, ?_⟩, ?_, ?_, ?_⟩
  · decide +kernel
  · decide +kernel
  · intro item hitem
    obtain rfl := List.mem_singleton.1 hitem
    exact ⟨⟨_, rfl, hsize⟩, rfl⟩
  · decide +kernel
  · decide +kernel

end Sample

end RecordMapper
