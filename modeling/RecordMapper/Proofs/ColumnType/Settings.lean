import Mathlib.Data.List.Induction
import RecordMapper.Declaration.Derived
import RecordMapper.Proofs.Reordering

namespace RecordMapper

variable {δ : Type}

namespace ColumnType

/-- Whether two types make the same of every value, and agree on whether they are keys and whether
the database counts their values. -/
structure Alike (t u : ColumnType δ) : Prop where
  admits : t.admits = u.admits
  validate (v : Value) : t.validate v = u.validate v
  coerce (v : Value) : t.coerce v = u.coerce v
  isPrimaryKey : t.isPrimaryKey = u.isPrimaryKey
  isInteger : t.isInteger = u.isInteger
  isAutoincrement : t.isAutoincrement = u.isAutoincrement

theorem Alike.key {t u : ColumnType δ} (h : t.Alike u) (autoincrement : Bool) :
    (primaryKey t autoincrement).Alike (primaryKey u autoincrement) where
  admits := h.admits
  validate := h.validate
  coerce v := by simpa only [ColumnType.coerce] using h.coerce v
  isPrimaryKey := rfl
  isInteger := rfl
  isAutoincrement := congrArg (autoincrement && ·) h.isInteger

theorem alike_withLength (t : ColumnType δ) (n : Nat) : (t.withLength n).Alike t := by
  induction t with
  | primaryKey inner autoincrement ih => exact ih.key autoincrement
  | string length default => exact ⟨rfl, fun _ => rfl, fun v => by cases v <;> rfl, rfl, rfl, rfl⟩
  | _ => exact ⟨rfl, fun _ => rfl, fun _ => rfl, rfl, rfl, rfl⟩

theorem alike_withDefault (t : ColumnType δ) (x : δ) : (t.withDefault x).Alike t := by
  induction t with
  | primaryKey inner autoincrement ih => exact ih.key autoincrement
  | _ => exact ⟨rfl, fun _ => rfl, fun v => by cases v <;> rfl, rfl, rfl, rfl⟩

end ColumnType

inductive TypeSetting (δ : Type)
  | length (n : Nat)
  | default (x : δ)
  | key (autoincrement : Bool)
  deriving DecidableEq

namespace TypeSetting

inductive Kind
  | length
  | default
  | key
  deriving DecidableEq

def kind : TypeSetting δ → Kind
  | length _ => .length
  | default _ => .default
  | key _ => .key

def apply (t : ColumnType δ) : TypeSetting δ → ColumnType δ
  | length n => t.withLength n
  | default x => t.withDefault x
  | key autoincrement => .primaryKey t autoincrement

def default? : TypeSetting δ → Option δ
  | default x => some x
  | _ => none

end TypeSetting

namespace ColumnType

open TypeSetting

def build (t : ColumnType δ) (settings : List (TypeSetting δ)) : ColumnType δ :=
  settings.foldl TypeSetting.apply t

def sized (t : ColumnType δ) (n : Option Nat) : ColumnType δ := n.elim t t.withLength

def defaulted (t : ColumnType δ) (x : Option δ) : ColumnType δ := x.elim t t.withDefault

variable (t : ColumnType δ)

theorem admits_build (settings : List (TypeSetting δ)) : (t.build settings).admits = t.admits := by
  induction settings generalizing t with
  | nil => rfl
  | cons setting settings ih =>
    refine (ih (setting.apply t)).trans ?_
    cases setting with
    | length n => exact (t.alike_withLength n).admits
    | default x => exact (t.alike_withDefault x).admits
    | key autoincrement => rfl

end ColumnType

namespace DeclaredColumn

def settings (c : DeclaredColumn) (x : Option Default) : List (TypeSetting Default) :=
  c.length.toList.map .length ++ (x.toList.map .default ++ c.primaryKey.toList.map .key)

def settings? (c : DeclaredColumn) : Option (List (TypeSetting Default)) :=
  match c.default with
  | none => some (c.settings none)
  | some x => x.default?.map fun y => c.settings (some y)

theorem build_settings (c : DeclaredColumn) (x : Option Default) (t : ColumnType) :
    t.build (c.settings x) = c.primaryKey.elim ((t.sized c.length).defaulted x)
      fun counted => .primaryKey ((t.sized c.length).defaulted x) counted := by
  rw [settings]
  cases c.length <;> cases x <;> cases c.primaryKey <;> rfl

theorem type_eq_build (c : DeclaredColumn) (f : FieldType) :
    c.type? f = c.settings?.map f.columnType.build := by
  rw [type?, settings?]
  cases c.default with
  | none => exact congrArg some (c.build_settings none f.columnType).symm
  | some x =>
    cases hx : x.default? with
    | none => simp [hx]
    | some y =>
      simp only [hx]
      exact congrArg some (c.build_settings (some y) f.columnType).symm

end DeclaredColumn

namespace Sample

def rearranged : List (TypeSetting (Dialect → String)) :=
  [.default (·.now), .key true, .key false, .length 80, .length 40]

end Sample

end RecordMapper
