import Mathlib.Data.List.Induction
import RecordMapper.Builder.Query
import RecordMapper.Builder.Update
import RecordMapper.Proofs.Builder.Conditions
import RecordMapper.Proofs.Builder.Insert

namespace RecordMapper

open Sql

inductive QueryCall
  | condition (k : Connective) (p : Comparison)
  | equals (column : String) (v : Value)
  | limit (n : Nat)

namespace QueryCall

def apply (q : Query α) : QueryCall → Query α
  | condition k p => q.condition k p.column p.op p.value
  | equals column v => q.equals column v
  | limit n => q.limit n

def comparison? : QueryCall → Option (Connective × Comparison)
  | condition k p => some (k, p)
  | equals column v => some (.filter, ⟨column, .eq, v⟩)
  | limit _ => none

def limit? : QueryCall → Option Nat
  | limit n => some n
  | _ => none

def lastLimit? (calls : List QueryCall) : Option Nat := (calls.filterMap limit?).getLast?

end QueryCall

namespace Query

def ofCalls (d : Dialect) (m : Model α) (calls : List QueryCall) : Query α :=
  calls.foldl QueryCall.apply { dialect := d, model := m }

/-- What a query says of the calls that made it. -/
structure Say (m : Model α) (calls : List QueryCall) (q : Query α) : Prop where
  model : q.model = m
  conditions : q.conditions.Say m.schema (calls.filterMap QueryCall.comparison?)
  limit : q.limit? = QueryCall.lastLimit? calls

theorem ofCalls_concat (d : Dialect) (m : Model α) (calls : List QueryCall) (call : QueryCall) :
    ofCalls d m (calls ++ [call]) = call.apply (ofCalls d m calls) := by
  simp [ofCalls]

theorem frame_ofCalls (d : Dialect) (m : Model α) (calls : List QueryCall) :
    (ofCalls d m calls).dialect = d ∧ (ofCalls d m calls).model = m ∧
      (ofCalls d m calls).limit? = QueryCall.lastLimit? calls := by
  induction calls using List.reverseRecOn with
  | nil => exact ⟨rfl, rfl, rfl⟩
  | append_singleton calls call ih =>
    obtain ⟨hd, hm, hlimit⟩ := ih
    rw [ofCalls_concat]
    refine ⟨?_, ?_, ?_⟩
    · cases call <;> exact hd
    · cases call <;> exact hm
    · cases call with
      | limit n => simp [QueryCall.lastLimit?, QueryCall.limit?, QueryCall.apply, Query.limit]
      | _ =>
        simpa [QueryCall.lastLimit?, QueryCall.limit?, QueryCall.apply, Query.condition,
          Query.equals] using hlimit

theorem conditions_ofCalls {d : Dialect} {m : Model α} {calls : List QueryCall}
    (h : (ofCalls d m calls).conditions.error = none) :
    (ofCalls d m calls).conditions.Say m.schema (calls.filterMap QueryCall.comparison?) := by
  induction calls using List.reverseRecOn with
  | nil => exact Conditions.say_nil m.schema
  | append_singleton calls call ih =>
    have hs : (ofCalls d m calls).model.schema = m.schema :=
      congrArg Model.schema (frame_ofCalls d m calls).2.1
    rw [ofCalls_concat] at h ⊢
    rw [List.filterMap_append, ← hs]
    rw [← hs] at ih
    cases call with
    | condition k p => exact (ih (Conditions.push_cases h).1).push h
    | equals column v =>
      exact (ih (Conditions.push_cases (p := ⟨column, .eq, v⟩) h).1).push (p := ⟨column, .eq, v⟩) h
    | limit n =>
      show (ofCalls d m calls).conditions.Say _ (_ ++ [])
      rw [List.append_nil]
      exact ih h

theorem say_ofCalls {d : Dialect} {m : Model α} {calls : List QueryCall}
    (h : (ofCalls d m calls).conditions.error = none) : (ofCalls d m calls).Say m calls where
  model := (frame_ofCalls d m calls).2.1
  conditions := conditions_ofCalls h
  limit := (frame_ofCalls d m calls).2.2

theorem Say.read_limited {m : Model α} {calls : List QueryCall} {q : Query α} (h : q.Say m calls) :
    ∃ f : Filter,
      List.Forall₂ (List.Forall₂ (ReadsAs m.schema))
        (alternatives (calls.filterMap QueryCall.comparison?)) f ∧
      ∀ limit : Option Nat, Command.read? ({ q with limit? := limit } : Query α).toSql =
        some (.select m.schema.table m.schema.columnNames f limit) := by
  obtain ⟨rfl, hconditions, -⟩ := h
  obtain ⟨f, hproper, hf, hspells, hnil⟩ := hconditions.alternatives
  exact ⟨f, hf, fun limit =>
    (spells_select _ _ hspells hnil limit).command (select_read _ _ hproper limit)⟩

theorem Say.read {m : Model α} {calls : List QueryCall} {q : Query α} (h : q.Say m calls) :
    ∃ f : Filter,
      List.Forall₂ (List.Forall₂ (ReadsAs m.schema))
        (alternatives (calls.filterMap QueryCall.comparison?)) f ∧
      Command.read? q.toSql =
        some (.select m.schema.table m.schema.columnNames f (QueryCall.lastLimit? calls)) := by
  obtain ⟨f, hf, hread⟩ := h.read_limited
  rw [← h.limit]
  exact ⟨f, hf, hread q.limit?⟩

end Query

inductive UpdateCall
  | condition (k : Connective) (p : Comparison)
  | equals (column : String) (v : Value)
  | set (column : String) (v : Value)
  | setAll (pairs : List (String × Value))

namespace UpdateCall

def apply (u : Update) : UpdateCall → Update
  | condition k p => u.condition k p.column p.op p.value
  | equals column v => u.equals column v
  | set column v => u.set column v
  | setAll pairs => u.setAll pairs

def comparison? : UpdateCall → Option (Connective × Comparison)
  | condition k p => some (k, p)
  | equals column v => some (.filter, ⟨column, .eq, v⟩)
  | _ => none

def assigned : UpdateCall → List (String × Value)
  | set column v => [(column, v)]
  | setAll pairs => pairs
  | _ => []

end UpdateCall

namespace Update

def ofCalls (d : Dialect) (s : Schema) (calls : List UpdateCall) : Update :=
  calls.foldl UpdateCall.apply { dialect := d, schema := s }

/-- What an update says of its conditions and its assignments. -/
structure Say (s : Schema) (ps : List (Connective × Comparison)) (pairs : List (String × Value))
    (u : Update) : Prop where
  schema : u.schema = s
  conditions : u.conditions.Say s ps
  assignments : List.Forall₂
    (fun p text => ∃ a, Assigns s p a ∧ Spells text.toList (assignmentTokens a)) pairs u.assignments

theorem set_cases {u : Update} {column : String} {v : Value}
    (h : (u.set column v).conditions.error = none) :
    u.conditions.error = none ∧ ∃ sql, assignmentSql u.dialect u.schema column v = .ok sql ∧
      u.set column v = { u with assignments := u.assignments ++ [sql] } := by
  unfold set at h ⊢
  split at h
  · rename_i sql hsql
    exact ⟨h, sql, hsql, rfl⟩
  · simp [Conditions.fail] at h

theorem Say.set {s : Schema} {ps : List (Connective × Comparison)} {pairs : List (String × Value)}
    {u : Update} (hu : u.Say s ps pairs) {column : String} {v : Value}
    (h : (u.set column v).conditions.error = none) :
    (u.set column v).Say s ps (pairs ++ [(column, v)]) := by
  obtain ⟨rfl, hconditions, hassignments⟩ := hu
  obtain ⟨_, sql, hsql, hset⟩ := set_cases h
  rw [hset]
  exact ⟨rfl, hconditions, List.rel_append hassignments
    (.cons (assignmentSql_spells (p := (column, v)) hsql) .nil)⟩

theorem error_of_setAll {u : Update} {pairs : List (String × Value)}
    (h : (u.setAll pairs).conditions.error = none) : u.conditions.error = none := by
  induction pairs generalizing u with
  | nil => exact h
  | cons p pairs ih => exact (set_cases (ih h)).1

theorem Say.setAll {s : Schema} {ps : List (Connective × Comparison)}
    {pairs more : List (String × Value)} {u : Update} (hu : u.Say s ps pairs)
    (h : (u.setAll more).conditions.error = none) : (u.setAll more).Say s ps (pairs ++ more) := by
  induction more generalizing u pairs with
  | nil => simpa [Update.setAll] using hu
  | cons p more ih =>
    have hset := hu.set (error_of_setAll (u := u.set p.1 p.2) h)
    simpa [Update.setAll] using ih hset h

theorem Say.condition {s : Schema} {ps : List (Connective × Comparison)}
    {pairs : List (String × Value)} {u : Update} (hu : u.Say s ps pairs) {k : Connective}
    {p : Comparison} (h : (u.condition k p.column p.op p.value).conditions.error = none) :
    (u.condition k p.column p.op p.value).Say s (ps ++ [(k, p)]) pairs := by
  obtain ⟨rfl, hconditions, hassignments⟩ := hu
  exact ⟨rfl, hconditions.push h, hassignments⟩

theorem ofCalls_concat (d : Dialect) (s : Schema) (calls : List UpdateCall) (call : UpdateCall) :
    ofCalls d s (calls ++ [call]) = call.apply (ofCalls d s calls) := by
  simp [ofCalls]

theorem say_ofCalls {d : Dialect} {s : Schema} {calls : List UpdateCall}
    (h : (ofCalls d s calls).conditions.error = none) :
    (ofCalls d s calls).Say s (calls.filterMap UpdateCall.comparison?)
      (calls.flatMap UpdateCall.assigned) := by
  induction calls using List.reverseRecOn with
  | nil => exact ⟨rfl, Conditions.say_nil s, .nil⟩
  | append_singleton calls call ih =>
    rw [ofCalls_concat] at h ⊢
    rw [List.filterMap_append, List.flatMap_append]
    cases call with
    | condition k p =>
      have hcall := (ih (Conditions.push_cases h).1).condition h
      simpa [UpdateCall.apply, UpdateCall.comparison?, UpdateCall.assigned, List.filterMap_cons]
        using hcall
    | equals column v =>
      have hcall := (ih (Conditions.push_cases (p := ⟨column, .eq, v⟩) h).1).condition
        (p := ⟨column, .eq, v⟩) h
      simpa [UpdateCall.apply, equals, UpdateCall.comparison?, UpdateCall.assigned,
        List.filterMap_cons] using hcall
    | set column v =>
      have hcall := (ih (set_cases h).1).set h
      simpa [UpdateCall.apply, UpdateCall.comparison?, UpdateCall.assigned, List.filterMap_cons]
        using hcall
    | setAll pairs =>
      have hcall := (ih (error_of_setAll h)).setAll h
      simpa [UpdateCall.apply, UpdateCall.comparison?, UpdateCall.assigned, List.filterMap_cons]
        using hcall

theorem Say.read {s : Schema} {ps : List (Connective × Comparison)}
    {pairs : List (String × Value)} {u : Update} (h : u.Say s ps pairs) (hpairs : pairs ≠ []) :
    ∃ (as : List (String × Literal)) (f : Filter),
      List.Forall₂ (Assigns s) pairs as ∧
      List.Forall₂ (List.Forall₂ (ReadsAs s)) (alternatives ps) f ∧
      Command.read? u.toSql = some (.update s.table as f) := by
  obtain ⟨rfl, hconditions, hassignments⟩ := h
  obtain ⟨f, hproper, hf, hspells, hnil⟩ := hconditions.alternatives
  obtain ⟨as, has, htexts⟩ := exists_between hassignments
  have hne : as ≠ [] := by
    rintro rfl
    cases has
    exact hpairs rfl
  exact ⟨as, f, has, hf, (spells_update _ htexts hspells hnil).command
    (update_read _ hne hproper)⟩

end Update

inductive DeleteCall
  | condition (k : Connective) (p : Comparison)
  | equals (column : String) (v : Value)

namespace DeleteCall

def apply (x : Delete) : DeleteCall → Delete
  | condition k p => x.condition k p.column p.op p.value
  | equals column v => x.equals column v

def comparison : DeleteCall → Connective × Comparison
  | condition k p => (k, p)
  | equals column v => (.filter, ⟨column, .eq, v⟩)

theorem apply_eq (x : Delete) (call : DeleteCall) :
    call.apply x = x.condition call.comparison.1 call.comparison.2.column call.comparison.2.op
      call.comparison.2.value := by
  cases call <;> rfl

end DeleteCall

namespace Delete

def ofCalls (d : Dialect) (s : Schema) (calls : List DeleteCall) : Delete :=
  calls.foldl DeleteCall.apply { dialect := d, schema := s }

theorem say_ofCalls {d : Dialect} {s : Schema} {calls : List DeleteCall}
    (h : (ofCalls d s calls).conditions.error = none) :
    (ofCalls d s calls).schema = s ∧
      (ofCalls d s calls).conditions.Say s (calls.map DeleteCall.comparison) := by
  induction calls using List.reverseRecOn with
  | nil => exact ⟨rfl, Conditions.say_nil s⟩
  | append_singleton calls call ih =>
    have hstep : ofCalls d s (calls ++ [call]) = call.apply (ofCalls d s calls) := by
      simp [ofCalls]
    rw [hstep, DeleteCall.apply_eq] at h ⊢
    obtain ⟨hschema, hconditions⟩ := ih (Conditions.push_cases h).1
    refine ⟨hschema, ?_⟩
    rw [List.map_append, List.map_singleton]
    simp only [condition, hschema] at h ⊢
    exact hconditions.push h

end Delete

/-- No value and no name changes what kind of statement a chain of calls makes, and each call stands
for its own part of it. -/
theorem chains_read (d : Dialect) (m : Model α) (s : Schema) :
    (∀ calls, (Query.ofCalls d m calls).conditions.error = none →
      ∃ f : Filter,
        List.Forall₂ (List.Forall₂ (ReadsAs m.schema))
          (alternatives (calls.filterMap QueryCall.comparison?)) f ∧
        Command.read? (Query.ofCalls d m calls).toSql =
          some (.select m.schema.table m.schema.columnNames f (QueryCall.lastLimit? calls))) ∧
    (∀ calls, (Update.ofCalls d s calls).conditions.error = none →
      calls.flatMap UpdateCall.assigned ≠ [] →
      ∃ (as : List (String × Literal)) (f : Filter),
        List.Forall₂ (Assigns s) (calls.flatMap UpdateCall.assigned) as ∧
        List.Forall₂ (List.Forall₂ (ReadsAs s))
          (alternatives (calls.filterMap UpdateCall.comparison?)) f ∧
        Command.read? (Update.ofCalls d s calls).toSql = some (.update s.table as f)) ∧
    (∀ calls, (Delete.ofCalls d s calls).conditions.error = none →
      ∃ f : Filter,
        List.Forall₂ (List.Forall₂ (ReadsAs s)) (alternatives (calls.map DeleteCall.comparison)) f ∧
        Command.read? (Delete.ofCalls d s calls).toSql = some (.delete s.table f)) := by
  refine ⟨fun calls h => (Query.say_ofCalls h).read,
    fun calls h hne => (Update.say_ofCalls h).read hne, fun calls h => ?_⟩
  obtain ⟨hschema, hconditions⟩ := Delete.say_ofCalls h
  obtain ⟨f, hproper, hf, hspells, hnil⟩ := hconditions.alternatives
  refine ⟨f, hf, ?_⟩
  rw [Delete.toSql, hschema]
  exact (spells_delete _ hspells hnil).command (delete_read _ hproper)

namespace Sample

def intrusion : Comparison where
  column := "it's, here); --"
  op := .like
  value := .text "x' OR 'a' = 'a'; DROP TABLE \"we\"\"ird t\"; --\n"

def flagMissing : Comparison where
  column := "on"
  op := .eq
  value := .null

def afterLeap : Comparison where
  column := "at"
  op := .gt
  value := .timestamp leapSecond

theorem intrusion_read :
    ∃ f : Filter,
      List.Forall₂ (List.Forall₂ (ReadsAs diary)) [[intrusion, flagMissing], [afterLeap]] f ∧
      Command.read? (Query.ofCalls .sqlite (Model.ofSchema "Diary" diary)
        [.condition .filter intrusion, .limit 5, .condition .and flagMissing,
          .condition .or afterLeap, .limit 3]).toSql =
        some (.select "we\"ird t" ["i\"d", "it's, here); --", "on", "at"] f (some 3)) :=
  (chains_read .sqlite (Model.ofSchema "Diary" diary) diary).1
    [.condition .filter intrusion, .limit 5, .condition .and flagMissing,
      .condition .or afterLeap, .limit 3] (by decide)

/-- A condition whose literal says another timestamp than was given. -/
theorem straggler_misread :
    let q := Query.ofCalls .sqlite (Model.ofSchema "Late" late)
      [.equals "at" (.timestamp straggler)]
    q.conditions.error = none ∧
      Command.read? q.toSql = some (.select "late" ["at"]
        [[.compare "at" .eq (.text "2024-01-02 23:56:05.333333")]] none) ∧
      ColumnType.plainDatetime.coerce (.text "2024-01-02 23:56:05.333333") =
        .ok (.timestamp stragglerShown) ∧
      stragglerShown ≠ straggler.toMicros := by
  decide +kernel

end Sample

end RecordMapper
