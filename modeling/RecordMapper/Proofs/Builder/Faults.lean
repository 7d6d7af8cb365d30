import RecordMapper.Proofs.Builder.Chains
import RecordMapper.Proofs.Session.Requests

namespace RecordMapper

theorem ColumnType.kind_of_literal {d : Dialect} {t : ColumnType} {v : Value} {e : Error}
    (h : t.literal d v = .error e) : e.kind = .validation := by
  rw [literal] at h
  split at h
  · contradiction
  · split at h
    · contradiction
    · cases h
      rfl

theorem ColumnType.kind_of_sql {d : Dialect} {t : ColumnType} {e : Error}
    (h : t.sql d = .error e) : e.kind ≠ .database := by
  induction t with
  | primaryKey inner autoincrement ih =>
    rw [sql] at h
    split at h
    · cases h
      exact nofun
    · split at h
      · contradiction
      · rcases except_bind_eq_error h with h | ⟨head, _, h⟩
        · exact ih h
        · contradiction
  | _ =>
    rcases except_bind_eq_error h with h | ⟨clause, _, h⟩
    · rw [defaultClause] at h
      split at h
      · contradiction
      · split at h
        · contradiction
        · cases h
          exact nofun
      · contradiction
    · contradiction

theorem Column.kind_of_sql {d : Dialect} {col : Column} {e : Error} (h : col.sql d = .error e) :
    e.kind ≠ .database := by
  rcases except_bind_eq_error h with h | ⟨type, _, h⟩
  · exact ColumnType.kind_of_sql h
  · contradiction

theorem kind_of_conditionSql {d : Dialect} {s : Schema} {column : String} {op : Operator}
    {v : Value} {e : Error} (h : conditionSql d s column op v = .error e) :
    e.kind ≠ .database := by
  unfold conditionSql at h
  split at h
  · cases h
    exact nofun
  · split at h
    · cases op <;> cases h <;> exact nofun
    · rcases except_bind_eq_error h with h | ⟨text, _, h⟩
      · simp [ColumnType.kind_of_literal h]
      · contradiction

theorem kind_of_assignmentSql {d : Dialect} {s : Schema} {column : String} {v : Value} {e : Error}
    (h : assignmentSql d s column v = .error e) : e.kind ≠ .database := by
  unfold assignmentSql at h
  split at h
  · cases h
    exact nofun
  · split at h
    · cases h
      exact nofun
    · rcases except_bind_eq_error h with h | ⟨text, _, h⟩
      · simp [ColumnType.kind_of_literal h]
      · contradiction

namespace Conditions

def Early (cs : Conditions) : Prop := ∀ e, cs.error = some e → e.kind ≠ .database

theorem Early.fail {cs : Conditions} (hcs : cs.Early) {e : Error} (he : e.kind ≠ .database) :
    (cs.fail e).Early := by
  intro e' h
  rw [Conditions.fail] at h
  cases hfirst : cs.error with
  | none =>
    simp only [hfirst, Option.none_or, Option.some.injEq] at h
    exact h ▸ he
  | some first =>
    simp only [hfirst, Option.some_or, Option.some.injEq] at h
    exact hcs e' (hfirst.trans (congrArg some h))

theorem kind_of_fragment {d : Dialect} {s : Schema} {started : Bool} {k : Connective}
    {column : String} {op : Operator} {v : Value} {e : Error}
    (h : fragment d s started k column op v = .error e) : e.kind ≠ .database := by
  unfold fragment at h
  split at h
  · cases h
    exact nofun
  · cases h
    exact nofun
  · cases h
    exact nofun
  · rcases except_bind_eq_error h with h | ⟨text, _, h⟩
    · exact kind_of_conditionSql h
    · contradiction

theorem Early.push {cs : Conditions} (hcs : cs.Early) (d : Dialect) (s : Schema) (k : Connective)
    (column : String) (op : Operator) (v : Value) : (cs.push d s k column op v).Early := by
  unfold Conditions.push
  split
  · exact hcs
  · rename_i e he
    exact hcs.fail (kind_of_fragment he)

end Conditions

theorem Query.early_ofCalls (d : Dialect) (m : Model α) (calls : List QueryCall) :
    (ofCalls d m calls).conditions.Early := by
  induction calls using List.reverseRecOn with
  | nil => exact nofun
  | append_singleton calls call ih =>
    rw [ofCalls_concat]
    cases call with
    | condition k p => exact ih.push _ _ _ _ _ _
    | equals column v => exact ih.push _ _ _ _ _ _
    | limit n => exact ih

theorem Update.early_set {u : Update} (hu : u.conditions.Early) (column : String) (v : Value) :
    (u.set column v).conditions.Early := by
  unfold Update.set
  split
  · exact hu
  · rename_i e he
    exact hu.fail (kind_of_assignmentSql he)

theorem Update.early_setAll {u : Update} (hu : u.conditions.Early)
    (pairs : List (String × Value)) : (u.setAll pairs).conditions.Early := by
  induction pairs generalizing u with
  | nil => exact hu
  | cons p pairs ih => exact ih (early_set hu p.1 p.2)

theorem Update.early_ofCalls (d : Dialect) (s : Schema) (calls : List UpdateCall) :
    (ofCalls d s calls).conditions.Early := by
  induction calls using List.reverseRecOn with
  | nil => exact nofun
  | append_singleton calls call ih =>
    rw [ofCalls_concat]
    cases call with
    | condition k p => exact ih.push _ _ _ _ _ _
    | equals column v => exact ih.push _ _ _ _ _ _
    | set column v => exact early_set ih column v
    | setAll pairs => exact early_setAll ih pairs

theorem Delete.early_ofCalls (d : Dialect) (s : Schema) (calls : List DeleteCall) :
    (ofCalls d s calls).conditions.Early := by
  induction calls using List.reverseRecOn with
  | nil => exact nofun
  | append_singleton calls call ih =>
    have hstep : ofCalls d s (calls ++ [call]) = call.apply (ofCalls d s calls) := by
      simp [ofCalls]
    rw [hstep, DeleteCall.apply_eq]
    exact ih.push _ _ _ _ _ _

namespace Entity

def item? (x : Entity) : Option InsertItem := x.record.toOption.map (InsertItem.mk x.ident)

def failure? (x : Entity) : Option Error :=
  match x.record with
  | .ok _ => none
  | .error e => some e

theorem failure?_eq_some {x : Entity} {e : Error} :
    x.failure? = some e ↔ x.record = .error e := by
  rw [failure?]
  cases x.record <;> simp

end Entity

namespace Insert

def ofItems (d : Dialect) (xs : List Entity) : Insert := ({ dialect := d } : Insert).addAll xs

theorem addAll_eq (b : Insert) (xs : List Entity) :
    b.addAll xs = { b with
      items := b.items ++ xs.filterMap Entity.item?
      error := b.error.or (xs.findSome? Entity.failure?) } := by
  induction xs generalizing b with
  | nil => simp [addAll]
  | cons x xs ih =>
    have hrest := ih (b.add x)
    rw [addAll] at hrest ⊢
    rw [List.foldl_cons, hrest, add]
    cases hx : x.record with
    | error e =>
      have hitem : x.item? = none := by rw [Entity.item?, hx]; rfl
      have hfailure : x.failure? = some e := by rw [Entity.failure?, hx]
      simp [hitem, hfailure]
    | ok r =>
      have hitem : x.item? = some ⟨x.ident, r⟩ := by rw [Entity.item?, hx]; rfl
      have hfailure : x.failure? = none := by rw [Entity.failure?, hx]
      simp [hitem, hfailure]

theorem ofItems_items (d : Dialect) (xs : List Entity) :
    (ofItems d xs).items = xs.filterMap Entity.item? := by
  rw [ofItems, addAll_eq, List.nil_append]

theorem ofItems_dialect (d : Dialect) (xs : List Entity) : (ofItems d xs).dialect = d := by
  rw [ofItems, addAll_eq]

theorem ofItems_error (d : Dialect) (xs : List Entity) :
    (ofItems d xs).error = xs.findSome? Entity.failure? := by
  rw [ofItems, addAll_eq, Option.none_or]

end Insert

inductive Task : Type 1
  | first {α : Type} (m : Model α) (calls : List QueryCall)
  | all {α : Type} (m : Model α) (calls : List QueryCall)
  | insert (xs : List Entity)
  | update (s : Schema) (calls : List UpdateCall)
  | delete (s : Schema) (calls : List DeleteCall)
  | createTable (s : Schema)
  | tableList
  | tableColumns (table : String)
  | tableConstraints (table : String)
  | renameTable (old new : String)
  | addColumn (table : String) (col : Column)
  | dropColumn (table column : String)
  | dropTable (table : String)

namespace Task

def action (d : Dialect) : Task → Action
  | first m calls => .first (Query.ofCalls d m calls)
  | all m calls => .all (Query.ofCalls d m calls)
  | insert xs => .insert (Insert.ofItems d xs)
  | update s calls => .update (Update.ofCalls d s calls)
  | delete s calls => .delete (Delete.ofCalls d s calls)
  | createTable s => .createTable s
  | tableList => .tableList
  | tableColumns table => .tableColumns table
  | tableConstraints table => .tableConstraints table
  | renameTable old new => .renameTable old new
  | addColumn table col => .addColumn table col
  | dropColumn table column => .dropColumn table column
  | dropTable table => .dropTable table

def requests (d : Dialect) (t : Task) : List Request := (t.action d).requests d

def executes : Task → Bool
  | first .. => false
  | all .. => false
  | tableList => false
  | tableColumns _ => false
  | tableConstraints _ => false
  | _ => true

/-- What is wrong with a task before anything of it is sent, and the error that says so. -/
inductive Fault (d : Dialect) : Task → Error → Prop
  | first {α : Type} {m : Model α} {calls : List QueryCall} {e : Error} :
      (Query.ofCalls d m calls).conditions.error = some e → Fault d (.first m calls) e
  | all {α : Type} {m : Model α} {calls : List QueryCall} {e : Error} :
      (Query.ofCalls d m calls).conditions.error = some e → Fault d (.all m calls) e
  | update {s : Schema} {calls : List UpdateCall} {e : Error} :
      (Update.ofCalls d s calls).conditions.error = some e → Fault d (.update s calls) e
  | unset {s : Schema} {calls : List UpdateCall} : calls.flatMap UpdateCall.assigned = [] →
      Fault d (.update s calls) (.invalidArgument .nothingToSet)
  | delete {s : Schema} {calls : List DeleteCall} {e : Error} :
      (Delete.ofCalls d s calls).conditions.error = some e → Fault d (.delete s calls) e
  | record {xs : List Entity} {x : Entity} {e : Error} : x ∈ xs → x.record = .error e →
      Fault d (.insert xs) e
  | mixed {xs : List Entity} {x y : InsertItem} : x ∈ xs.filterMap Entity.item? →
      y ∈ xs.filterMap Entity.item? → x.ident ≠ y.ident →
      Fault d (.insert xs)
        (.differentModels (.found x.record.schema.table y.record.schema.table))
  | value {xs : List Entity} {x first : InsertItem} {rest : List InsertItem} {p : Column × Value}
      {e : Error} : xs.filterMap Entity.item? = first :: rest → x ∈ first :: rest →
      p ∈ first.record.schema.columns.zip x.record.values → p.1.type.literal d p.2 = .error e →
      Fault d (.insert xs) e
  | column {s : Schema} {col : Column} {e : Error} : col ∈ s.columns → col.sql d = .error e →
      Fault d (.createTable s) e
  | addedColumn {table : String} {col : Column} {e : Error} : col.sql d = .error e →
      Fault d (.addColumn table col) e

theorem Fault.record_of_database {d : Dialect} {t : Task} {e : Error} (h : t.Fault d e)
    (he : e.kind = .database) : ∃ xs, t = .insert xs ∧ ∃ x ∈ xs, x.record = .error e := by
  cases h with
  | first herror => exact absurd he (Query.early_ofCalls d _ _ e herror)
  | all herror => exact absurd he (Query.early_ofCalls d _ _ e herror)
  | update herror => exact absurd he (Update.early_ofCalls d _ _ e herror)
  | unset => contradiction
  | delete herror => exact absurd he (Delete.early_ofCalls d _ _ e herror)
  | record hx herror => exact ⟨_, rfl, _, hx, herror⟩
  | mixed => contradiction
  | value _ _ _ herror => simp [ColumnType.kind_of_literal herror] at he
  | column _ herror => exact absurd he (Column.kind_of_sql herror)
  | addedColumn herror => exact absurd he (Column.kind_of_sql herror)

end Task

end RecordMapper
