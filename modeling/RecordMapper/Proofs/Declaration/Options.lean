import RecordMapper.Proofs.Declaration.Items
import RecordMapper.Proofs.Reordering

namespace RecordMapper

def allItems (attributes : List Attribute) : List AttributeItem :=
  attributes.flatMap fun a => a.getD []

theorem foldItems_eq_ok {β : Type} {step : β → AttributeItem → Except DeclarationError β}
    {b b' : β} {attributes : List Attribute} :
    foldItems step b attributes = .ok b' ↔
      (∀ a ∈ attributes, a.isSome = true) ∧ (allItems attributes).foldlM step b = .ok b' := by
  induction attributes generalizing b with
  | nil => simp [foldItems, allItems, pure, Except.pure]
  | cons a attributes ih =>
    cases a with
    | none => simp [foldItems]
    | some items =>
      rw [foldItems, allItems, List.flatMap_cons, List.foldlM_append, ← allItems]
      simp only [List.forall_mem_cons, Option.isSome_some, true_and, Option.getD_some]
      cases items.foldlM step b with
      | error e => simp [bind, Except.bind]
      | ok c => exact ih

theorem foldlM_meaning {β : Type} {step : β → AttributeItem → Except DeclarationError β}
    {Accepted : AttributeItem → Prop} {m : List AttributeItem → β}
    (haccepted : ∀ b item, (∃ b', step b item = .ok b') ↔ Accepted item)
    (hmeaning : ∀ {items item b'}, step (m items) item = .ok b' → m (items ++ [item]) = b')
    {items : List AttributeItem} {b : β} :
    items.foldlM step (m []) = .ok b ↔ (∀ item ∈ items, Accepted item) ∧ m items = b := by
  induction items using List.reverseRecOn generalizing b with
  | nil => simp [pure, Except.pure]
  | append_singleton items item ih =>
    have hone (b' : β) : [item].foldlM step b' = step b' item := by simp
    rw [List.foldlM_append, List.forall_mem_append, List.forall_mem_singleton]
    constructor
    · intro h
      obtain ⟨b', hitems, h⟩ := except_bind_eq_ok h
      obtain ⟨hbefore, rfl⟩ := ih.1 hitems
      rw [hone] at h
      exact ⟨⟨hbefore, (haccepted _ item).1 ⟨b, h⟩⟩, hmeaning h⟩
    · rintro ⟨⟨hbefore, hitem⟩, rfl⟩
      obtain ⟨b', h⟩ := (haccepted (m items) item).2 hitem
      rw [ih.2 ⟨hbefore, rfl⟩, hmeaning h]
      exact (hone _).trans h

def mentions (items : List AttributeItem) (key : String) : Bool :=
  items.any fun item => item.key = key

def lastOf {α : Type} (items : List AttributeItem) (key : String)
    (read : AttributeItem → Except DeclarationError α) : Option α :=
  (items.reverse.find? fun item => item.key = key).bind fun item => (read item).toOption

def ColumnOptions.ofItems (items : List AttributeItem) : ColumnOptions where
  primaryKey := mentions items "primary_key"
  autoincrement := mentions items "autoincrement"
  unique := mentions items "unique"
  size := lastOf items "size" AttributeItem.size
  default := lastOf items "default" AttributeItem.default
  defaultNow := mentions items "default_now"
  name := lastOf items "name" AttributeItem.text
  foreignKey := lastOf items "foreign_key" AttributeItem.foreignKey
  onDelete := lastOf items "on_delete" AttributeItem.action
  onUpdate := lastOf items "on_update" AttributeItem.action

section

variable {items : List AttributeItem} {key : String}

theorem mentions_append (item : AttributeItem) :
    mentions (items ++ [item]) key = (mentions items key || decide (item.key = key)) := by
  simp [mentions]

theorem lastOf_append {α : Type} (item : AttributeItem)
    (read : AttributeItem → Except DeclarationError α) :
    lastOf (items ++ [item]) key read =
      if item.key = key then (read item).toOption else lastOf items key read := by
  by_cases h : item.key = key <;> simp [lastOf, h]

theorem isSome_lastOf {α : Type} {read : AttributeItem → Except DeclarationError α}
    (h : ∀ item ∈ items, item.key = key → ∃ a, read item = .ok a) :
    (lastOf items key read).isSome = mentions items key := by
  rw [lastOf]
  cases hlast : items.reverse.find? fun item => item.key = key with
  | none =>
    have hnone : mentions items key = false := by
      simpa [mentions] using hlast
    rw [hnone]
    rfl
  | some item =>
    have hkey : item.key = key := by simpa using List.find?_some hlast
    have hmem := List.mem_reverse.1 (List.mem_of_find?_eq_some hlast)
    obtain ⟨a, ha⟩ := h item hmem hkey
    have hsome : mentions items key = true := List.any_eq_true.2 ⟨item, hmem, by simpa using hkey⟩
    rw [hsome, Option.bind_some, ha]
    rfl

end

namespace ColumnOptions

theorem ofItems_of_apply {items : List AttributeItem} {item : AttributeItem} {o : ColumnOptions}
    (h : (ofItems items).apply item = .ok o) : ofItems (items ++ [item]) = o := by
  have hflag {o' : ColumnOptions} (h : item.flag o' = .ok o) : o' = o :=
    (AttributeItem.flag_eq_ok.1 h).2
  have hvalue {α : Type} {x : Except DeclarationError α} {f : α → ColumnOptions}
      (h : (do return f (← x)) = .ok o) : ∃ a, x = .ok a ∧ f a = o := by
    obtain ⟨a, ha, h⟩ := except_bind_eq_ok h
    exact ⟨a, ha, Except.ok.inj h⟩
  unfold apply at h
  split at h <;> rename_i hkey
  · simp [← hflag h, ofItems, mentions_append, lastOf_append, hkey]
  · simp [← hflag h, ofItems, mentions_append, lastOf_append, hkey]
  · simp [← hflag h, ofItems, mentions_append, lastOf_append, hkey]
  · simp [← hflag h, ofItems, mentions_append, lastOf_append, hkey]
  · obtain ⟨n, hn, rfl⟩ := hvalue h
    simp [ofItems, mentions_append, lastOf_append, hkey, hn, Except.toOption]
  · obtain ⟨x, hx, rfl⟩ := hvalue h
    simp [ofItems, mentions_append, lastOf_append, hkey, hx, Except.toOption]
  · obtain ⟨s, hs, rfl⟩ := hvalue h
    simp [ofItems, mentions_append, lastOf_append, hkey, hs, Except.toOption]
  · obtain ⟨target, htarget, rfl⟩ := hvalue h
    simp [ofItems, mentions_append, lastOf_append, hkey, htarget, Except.toOption]
  · obtain ⟨action, haction, rfl⟩ := hvalue h
    simp [ofItems, mentions_append, lastOf_append, hkey, haction, Except.toOption]
  · obtain ⟨action, haction, rfl⟩ := hvalue h
    simp [ofItems, mentions_append, lastOf_append, hkey, haction, Except.toOption]
  · contradiction

theorem foldlM_apply {items : List AttributeItem} {o : ColumnOptions} :
    items.foldlM apply {} = .ok o ↔
      (∀ item ∈ items, item.WellFormed ∧ item.Sensible) ∧ ofItems items = o :=
  foldlM_meaning (m := ofItems) AttributeItem.exists_apply ofItems_of_apply

theorem isSome_of_accepted {α : Type} {items : List AttributeItem} {key : String}
    {read : AttributeItem → Except DeclarationError α}
    (hread : ∃ put : α → ColumnOptions, ∀ item : AttributeItem, item.key = key →
      ({} : ColumnOptions).apply item = do return put (← read item))
    (h : ∀ item ∈ items, item.WellFormed ∧ item.Sensible) :
    (lastOf items key read).isSome = mentions items key := by
  obtain ⟨put, hput⟩ := hread
  refine isSome_lastOf fun item hitem hkey => ?_
  obtain ⟨o, ho⟩ := (AttributeItem.exists_apply {} item).2 (h item hitem)
  obtain ⟨a, ha, _⟩ := except_bind_eq_ok ((hput item hkey).symm.trans ho)
  exact ⟨a, ha⟩

theorem check_eq_ok {o : ColumnOptions} : o.check = .ok () ↔
    (o.autoincrement = true → o.primaryKey = true) ∧
      ¬ (o.default.isSome = true ∧ o.defaultNow = true) ∧
        (o.onDelete.isSome = true ∨ o.onUpdate.isSome = true → o.foreignKey.isSome = true) := by
  rw [check]
  cases o.autoincrement <;> cases o.primaryKey <;> cases o.default.isSome <;> cases o.defaultNow <;>
    cases o.onDelete.isSome <;> cases o.onUpdate.isSome <;> cases o.foreignKey <;> simp

theorem check_ofItems {items : List AttributeItem}
    (h : ∀ item ∈ items, item.WellFormed ∧ item.Sensible) : (ofItems items).check = .ok () ↔
      (mentions items "autoincrement" = true → mentions items "primary_key" = true) ∧
        ¬ (mentions items "default" = true ∧ mentions items "default_now" = true) ∧
          (mentions items "on_delete" = true ∨ mentions items "on_update" = true →
            mentions items "foreign_key" = true) := by
  have hdefault : (ofItems items).default.isSome = mentions items "default" :=
    isSome_of_accepted
      ⟨fun x => { default := some x }, fun item hkey => by simp only [apply, hkey]⟩ h
  have hdelete : (ofItems items).onDelete.isSome = mentions items "on_delete" :=
    isSome_of_accepted
      ⟨fun x => { onDelete := some x }, fun item hkey => by simp only [apply, hkey]⟩ h
  have hupdate : (ofItems items).onUpdate.isSome = mentions items "on_update" :=
    isSome_of_accepted
      ⟨fun x => { onUpdate := some x }, fun item hkey => by simp only [apply, hkey]⟩ h
  have hforeign : (ofItems items).foreignKey.isSome = mentions items "foreign_key" :=
    isSome_of_accepted
      ⟨fun x => { foreignKey := some x }, fun item hkey => by simp only [apply, hkey]⟩ h
  rw [check_eq_ok, hdefault, hdelete, hupdate, hforeign]
  rfl

end ColumnOptions

namespace FieldDeclaration

def items (f : FieldDeclaration) : List AttributeItem := allItems f.attributes

def said (f : FieldDeclaration) : ColumnOptions := .ofItems f.items

structure WellFormed (f : FieldDeclaration) : Prop where
  attributes : ∀ a ∈ f.attributes, a.isSome = true
  items : ∀ item ∈ f.items, item.WellFormed

structure Consistent (f : FieldDeclaration) : Prop where
  sensible : ∀ item ∈ f.items, item.Sensible
  counted : mentions f.items "autoincrement" = true → mentions f.items "primary_key" = true
  oneDefault : ¬ (mentions f.items "default" = true ∧ mentions f.items "default_now" = true)
  joined : mentions f.items "on_delete" = true ∨ mentions f.items "on_update" = true →
    mentions f.items "foreign_key" = true

theorem options_eq_ok {f : FieldDeclaration} {o : ColumnOptions} :
    f.options = .ok o ↔ f.WellFormed ∧ f.Consistent ∧ f.said = o := by
  constructor
  · intro h
    obtain ⟨o', hfold, h⟩ := except_bind_eq_ok h
    obtain ⟨_, hcheck, h⟩ := except_bind_eq_ok h
    obtain rfl := Except.ok.inj h
    obtain ⟨hattributes, hfold⟩ := foldItems_eq_ok.1 hfold
    obtain ⟨hitems, rfl⟩ := ColumnOptions.foldlM_apply.1 hfold
    obtain ⟨hcounted, honeDefault, hjoined⟩ := (ColumnOptions.check_ofItems hitems).1 hcheck
    exact ⟨⟨hattributes, fun item hitem => (hitems item hitem).1⟩,
      ⟨fun item hitem => (hitems item hitem).2, hcounted, honeDefault, hjoined⟩, rfl⟩
  · rintro ⟨hform, hsense, rfl⟩
    have hitems : ∀ item ∈ f.items, item.WellFormed ∧ item.Sensible :=
      fun item hitem => ⟨hform.items item hitem, hsense.sensible item hitem⟩
    rw [options, foldItems_eq_ok.2 ⟨hform.attributes, ColumnOptions.foldlM_apply.2 ⟨hitems, rfl⟩⟩]
    have hcheck := (ColumnOptions.check_ofItems hitems).2
      ⟨hsense.counted, hsense.oneDefault, hsense.joined⟩
    show ((ColumnOptions.ofItems f.items).check >>= fun _ => Except.ok _) = _
    rw [hcheck]
    rfl

end FieldDeclaration

end RecordMapper
