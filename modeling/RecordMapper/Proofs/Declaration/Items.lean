import RecordMapper.Declaration.Expansion
import RecordMapper.Proofs.Except
import RecordMapper.Proofs.Text.Splitting

namespace RecordMapper

inductive AttributeLiteral.Gives : AttributeLiteral → DeclaredDefault → Prop
  | boolean (b : Bool) : Gives (.boolean b) (.boolean b)
  | text (s : String) : Gives (.text s) (.text s)
  | integer {source : String} : (IntegerLiteral.read? source.toList).isSome = true →
      Gives (.number source) (.integer source)

/-- Whether a text names a column of a table: both have a name, the first two colons that meet stand
between them, and no other two meet behind. -/
structure Targets (text : String) (target : String × String) : Prop where
  text : text = target.1 ++ "::" ++ target.2
  table_ne : target.1 ≠ ""
  column_ne : target.2 ≠ ""
  first : Text.FirstBehind "::".toList target.1.toList
  last : ¬ "::".toList <:+: target.2.toList

def plainText (text : String) : List Char :=
  (text.toList.flatMap Text.lowerForm).map fun c => if c = '_' then ' ' else c

def ReferentialAction.Named (text : String) (action : ReferentialAction) : Prop :=
  plainText text = plainText action.sql

def ReferentialAction.plainName : ReferentialAction → String
  | cascade => "cascade"
  | restrict => "restrict"
  | setNull => "set null"
  | setDefault => "set default"
  | noAction => "no action"

theorem ReferentialAction.named_iff {text : String} {action : ReferentialAction} :
    action.Named text ↔ String.ofList (plainText text) = action.plainName := by
  have hplain : String.ofList (plainText action.sql) = action.plainName := by
    cases action <;> decide +kernel
  rw [Named, ← String.ofList_inj, hplain]

namespace AttributeItem

section

variable {item : AttributeItem}

theorem flag_eq_ok {o o' : ColumnOptions} :
    item.flag o = .ok o' ↔ item.literal = none ∧ o = o' := by
  rw [flag]
  cases item.literal <;> simp

theorem bind_value_eq_ok {α : Type} {read : AttributeLiteral → Except DeclarationError α} {a : α} :
    (item.value >>= read) = .ok a ↔ ∃ l, item.literal = some l ∧ read l = .ok a := by
  rw [value]
  cases item.literal <;> simp [bind, Except.bind]

theorem text_eq_ok {s : String} : item.text = .ok s ↔ item.literal = some (.text s) := by
  rw [text, bind_value_eq_ok]
  constructor
  · rintro ⟨l, hl, h⟩
    cases l with
    | text s' => rwa [← Except.ok.inj h]
    | _ => cases h
  · exact fun h => ⟨_, h, rfl⟩

theorem bind_text_eq_ok {α : Type} {read : String → Except DeclarationError α} {a : α} :
    (item.text >>= read) = .ok a ↔ ∃ s, item.literal = some (.text s) ∧ read s = .ok a := by
  constructor
  · intro h
    obtain ⟨s, hs, h⟩ := except_bind_eq_ok h
    exact ⟨s, text_eq_ok.1 hs, h⟩
  · rintro ⟨s, hs, h⟩
    rw [text_eq_ok.2 hs]
    exact h

theorem size_eq_ok {n : Nat} : item.size = .ok n ↔ ∃ source, item.literal = some (.number source) ∧
    IntegerLiteral.read? source.toList = some (false, n) ∧ Numeral.fitsUnsigned 64 n = true := by
  rw [size, bind_value_eq_ok]
  constructor
  · rintro ⟨l, hl, h⟩
    cases l with
    | number source =>
      refine ⟨source, hl, ?_⟩
      dsimp only at h
      split at h
      · cases h
      · cases h
      · rename_i m hread
        split at h
        · rename_i hm
          obtain rfl := Except.ok.inj h
          exact ⟨hread, hm⟩
        · cases h
    | _ => cases h
  · rintro ⟨source, hl, hread, hn⟩
    refine ⟨_, hl, ?_⟩
    simp [hread, hn]

theorem default_eq_ok {x : DeclaredDefault} :
    item.default = .ok x ↔ ∃ l, item.literal = some l ∧ l.Gives x := by
  rw [default, bind_value_eq_ok]
  refine exists_congr fun l => and_congr_right fun _ => ⟨fun h => ?_, fun h => ?_⟩
  · cases l with
    | boolean b => exact Except.ok.inj h ▸ .boolean b
    | text s => exact Except.ok.inj h ▸ .text s
    | number source =>
      dsimp only at h
      split at h
      · rename_i hread
        exact Except.ok.inj h ▸ .integer hread
      · cases h
    | char c => cases h
  · cases h with
    | integer hread => exact if_pos hread
    | _ => rfl

theorem foreignKey_eq_ok {target : String × String} : item.foreignKey = .ok target ↔
    ∃ s, item.literal = some (.text s) ∧ Targets s target := by
  obtain ⟨table, column⟩ := target
  have hseparator : "::".toList ≠ [] := by decide
  rw [foreignKey, bind_text_eq_ok]
  refine exists_congr fun s => and_congr_right fun _ => ⟨fun h => ?_, ?_⟩
  · split at h
    · cases h
    · rename_i front back hsplit
      obtain ⟨hs, hfirst⟩ := (Text.splitFirst_eq_some hseparator).1 hsplit
      split at h
      · cases h
      · rename_i hparts
        obtain ⟨rfl, rfl⟩ := Prod.mk.inj (Except.ok.inj h)
        simp only [not_or] at hparts
        refine ⟨String.ext (by simpa using hs), ?_, ?_, by simpa using hfirst, ?_⟩
        · simpa using hparts.1
        · simpa using hparts.2.1
        · rw [← Text.splitFirst_isSome hseparator]
          simpa using hparts.2.2
  · rintro ⟨rfl, htable, hcolumn, hfirst, hlast⟩
    have hsplit : Text.splitFirst? [':', ':'] (table ++ "::" ++ column).toList =
        some (table.toList, column.toList) :=
      (Text.splitFirst_eq_some hseparator).2 ⟨by simp, hfirst⟩
    rw [hsplit]
    dsimp only
    rw [if_neg, String.ofList_toList, String.ofList_toList]
    rw [← Text.splitFirst_isSome hseparator] at hlast
    simp only [not_or]
    exact ⟨by simpa using htable, by simpa using hcolumn, hlast⟩

theorem action_eq_ok {action : ReferentialAction} : item.action = .ok action ↔
    ∃ s, item.literal = some (.text s) ∧ action.Named s := by
  rw [AttributeItem.action, bind_text_eq_ok]
  refine exists_congr fun s => and_congr_right fun _ => ?_
  rw [ReferentialAction.named_iff, plainText]
  dsimp only
  generalize String.ofList (List.map _ _) = text
  split
  · cases action <;> simp [ReferentialAction.plainName]
  · cases action <;> simp [ReferentialAction.plainName]
  · cases action <;> simp [ReferentialAction.plainName]
  · cases action <;> simp [ReferentialAction.plainName]
  · cases action <;> simp [ReferentialAction.plainName]
  · cases action <;> simp_all [ReferentialAction.plainName]

end

/-- Whether the value of an item is of the form that its key takes. -/
def WellFormed (item : AttributeItem) : Prop :=
  match item.key with
  | "primary_key" | "autoincrement" | "unique" | "default_now" => item.literal = none
  | "size" =>
    ∃ source, item.literal = some (.number source) ∧
      (IntegerLiteral.read? source.toList).isSome = true
  | "default" => ∃ l x, item.literal = some l ∧ l.Gives x
  | "name" | "foreign_key" | "on_delete" | "on_update" => ∃ s, item.literal = some (.text s)
  | _ => True

/-- Whether the value of an item means something for its key. A key that is not known means
nothing. -/
def Sensible (item : AttributeItem) : Prop :=
  match item.key with
  | "primary_key" | "autoincrement" | "unique" | "default_now" | "default" | "name" => True
  | "size" =>
    ∀ source, item.literal = some (.number source) →
      ∃ n, IntegerLiteral.read? source.toList = some (false, n) ∧ Numeral.fitsUnsigned 64 n = true
  | "foreign_key" =>
    ∀ s, item.literal = some (.text s) → ∃ target, Targets s target
  | "on_delete" | "on_update" =>
    ∀ s, item.literal = some (.text s) → ∃ action : ReferentialAction, action.Named s
  | _ => False

theorem exists_bind_pure {ε α β : Type} {x : Except ε α} {f : α → β} :
    (∃ b, (do return f (← x)) = .ok b) ↔ ∃ a, x = .ok a := by
  cases x <;> simp [bind, Except.bind, pure, Except.pure]

theorem exists_said {α β : Type} {literal : Option AttributeLiteral} {form : β → AttributeLiteral}
    (hform : Function.Injective form) {means : β → α → Prop} :
    (∃ a b, literal = some (form b) ∧ means b a) ↔
      (∃ b, literal = some (form b)) ∧ ∀ b, literal = some (form b) → ∃ a, means b a := by
  constructor
  · rintro ⟨a, b, rfl, hmeans⟩
    refine ⟨⟨b, rfl⟩, fun b' hb' => ⟨a, ?_⟩⟩
    rwa [← hform (Option.some.inj hb')]
  · rintro ⟨⟨b, hb⟩, hall⟩
    obtain ⟨a, ha⟩ := hall b hb
    exact ⟨a, b, hb, ha⟩

theorem exists_apply (o : ColumnOptions) (item : AttributeItem) :
    (∃ o', o.apply item = .ok o') ↔ item.WellFormed ∧ item.Sensible := by
  have htext : Function.Injective AttributeLiteral.text := fun _ _ => AttributeLiteral.text.inj
  obtain ⟨key, literal⟩ := item
  unfold ColumnOptions.apply WellFormed Sensible
  dsimp only
  split
  · simp [flag_eq_ok]
  · simp [flag_eq_ok]
  · simp [flag_eq_ok]
  · simp [flag_eq_ok]
  · rw [exists_bind_pure]
    simp only [size_eq_ok]
    rw [exists_said fun _ _ => AttributeLiteral.number.inj]
    constructor
    · rintro ⟨⟨source, hsource⟩, hall⟩
      obtain ⟨n, hn, _⟩ := hall source hsource
      exact ⟨⟨source, hsource, by simp [hn]⟩, hall⟩
    · rintro ⟨⟨source, hsource, _⟩, hall⟩
      exact ⟨⟨source, hsource⟩, hall⟩
  · rw [exists_bind_pure]
    simp only [default_eq_ok, and_true]
    exact exists_comm
  · rw [exists_bind_pure]
    simp only [text_eq_ok, and_true]
  · rw [exists_bind_pure]
    simp only [foreignKey_eq_ok]
    exact exists_said htext
  · rw [exists_bind_pure]
    simp only [action_eq_ok]
    exact exists_said htext
  · rw [exists_bind_pure]
    simp only [action_eq_ok]
    exact exists_said htext
  · simp

end AttributeItem

end RecordMapper
