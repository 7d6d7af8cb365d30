import Mathlib.Data.List.Forall2
import RecordMapper.Condition
import RecordMapper.Proofs.Except
import RecordMapper.Proofs.Literals
import RecordMapper.Proofs.Sql.Statements

namespace RecordMapper

open Sql

structure Comparison where
  column : String
  op : Operator
  value : Value

/-- Whether a condition means what was asked for. NULL is only ever there or not. -/
inductive ReadsAs (s : Schema) : Comparison → Condition → Prop
  | isNull : ReadsAs s ⟨column, .eq, .null⟩ (.isNull column)
  | isNotNull : ReadsAs s ⟨column, .ne, .null⟩ (.isNotNull column)
  | compare : v ≠ .null → s.column? column = some c → l.Carries c.type v →
      ReadsAs s ⟨column, op, v⟩ (.compare column op l)

def Assigns (s : Schema) (p : String × Value) (a : String × Literal) : Prop :=
  a.1 = p.1 ∧ ∃ c, s.column? p.1 = some c ∧ a.2.Carries c.type p.2

theorem Schema.name_of_column {s : Schema} {name : String} {c : Column}
    (h : s.column? name = some c) : c.name = name := by
  simpa using List.find?_some h

theorem conditionSql_spells {d : Dialect} {s : Schema} {p : Comparison} {sql : String}
    (h : conditionSql d s p.column p.op p.value = .ok sql) :
    ∃ c, ReadsAs s p c ∧ Spells sql.toList c.tokens := by
  obtain ⟨column, op, v⟩ := p
  have hname := spells_name column
  have hnull : Spells "IS NULL".toList [.word "IS", .word "NULL"] :=
    (spells_word (w := "IS") (by decide)).blank (spells_word (w := "NULL") (by decide))
  have hnotNull : Spells "IS NOT NULL".toList [.word "IS", .word "NOT", .word "NULL"] :=
    (spells_word (w := "IS") (by decide)).blank
      ((spells_word (w := "NOT") (by decide)).blank (spells_word (w := "NULL") (by decide)))
  unfold conditionSql at h
  split at h
  · contradiction
  · rename_i c hc
    obtain rfl := Schema.name_of_column hc
    split at h
    · rename_i hv
      obtain rfl := Value.isNull_eq_true.1 hv
      cases op with
      | eq =>
        obtain rfl := Except.ok.inj h
        exact ⟨.isNull c.name, .isNull, by simpa [Condition.tokens] using hname.blank hnull⟩
      | ne =>
        obtain rfl := Except.ok.inj h
        exact ⟨.isNotNull c.name, .isNotNull,
          by simpa [Condition.tokens] using hname.blank hnotNull⟩
      | _ => contradiction
    · rename_i hv
      obtain ⟨text, hl, h⟩ := except_bind_eq_ok h
      obtain rfl := Except.ok.inj h
      refine ⟨_, .compare (by simpa using hv) hc (ColumnType.carries_written hl), ?_⟩
      have hall := hname.blank ((spells_operator op).blank (ColumnType.spells_literal hl))
      simpa [Condition.tokens] using hall

theorem assignmentSql_spells {d : Dialect} {s : Schema} {p : String × Value} {sql : String}
    (h : assignmentSql d s p.1 p.2 = .ok sql) :
    ∃ a, Assigns s p a ∧ Spells sql.toList (assignmentTokens a) := by
  obtain ⟨column, v⟩ := p
  unfold assignmentSql at h
  split at h
  · contradiction
  · rename_i c hc
    obtain rfl := Schema.name_of_column hc
    split at h
    · contradiction
    · obtain ⟨text, hl, h⟩ := except_bind_eq_ok h
      obtain rfl := Except.ok.inj h
      refine ⟨(c.name, c.type.written d v), ⟨rfl, c, hc, ColumnType.carries_written hl⟩, ?_⟩
      have hall := (spells_name c.name).blank
        ((spells_operator .eq).blank (ColumnType.spells_literal hl))
      simpa [assignmentTokens, operatorTokens, Operator.sql] using hall

/-- The alternatives that a chain of conditions amounts to: each `or` begins a new one. -/
def alternatives : List (Connective × α) → List (List α)
  | [] => []
  | [(_, a)] => [[a]]
  | (_, a) :: (.or, b) :: rest => [a] :: alternatives ((.or, b) :: rest)
  | (_, a) :: p :: rest => (alternatives (p :: rest)).modifyHead (a :: ·)

theorem alternatives_ne_nil (p : Connective × α) (ps : List (Connective × α)) :
    alternatives (p :: ps) ≠ [] := by
  induction ps generalizing p with
  | nil => simp [alternatives]
  | cons q ps ih =>
    obtain ⟨k, b⟩ := q
    cases k <;> simp [alternatives, ih]

theorem alternatives_eq_nil {ps : List (Connective × α)} : alternatives ps = [] ↔ ps = [] := by
  cases ps with
  | nil => simp [alternatives]
  | cons p ps => simp [alternatives_ne_nil]

theorem ne_nil_of_mem_alternatives (ps : List (Connective × α)) :
    ∀ group ∈ alternatives ps, group ≠ [] := by
  fun_induction alternatives ps with
  | case1 => simp
  | case2 => simp
  | case3 k a b rest ih => simpa using ih
  | case4 k a p rest _ ih =>
    cases h : alternatives (p :: rest) with
    | nil => simp
    | cons group groups => simp_all

theorem forall₂_modifyHead {α β : Type} {R : α → β → Prop} {a : α} {b : β} {as : List (List α)}
    {bs : List (List β)} (hab : R a b) (h : List.Forall₂ (List.Forall₂ R) as bs) :
    List.Forall₂ (List.Forall₂ R) (as.modifyHead (a :: ·)) (bs.modifyHead (b :: ·)) := by
  cases h with
  | nil => exact .nil
  | cons hgroup hgroups => exact .cons (.cons hab hgroup) hgroups

theorem forall₂_alternatives {α β : Type} {R : α → β → Prop} {as : List (Connective × α)}
    {bs : List (Connective × β)}
    (h : List.Forall₂ (fun p q => p.1 = q.1 ∧ R p.2 q.2) as bs) :
    List.Forall₂ (List.Forall₂ R) (alternatives as) (alternatives bs) := by
  induction h with
  | nil => exact .nil
  | @cons p q as bs hpq hrest ih =>
    obtain ⟨k, a⟩ := p
    obtain ⟨l, b⟩ := q
    cases hrest with
    | nil => exact .cons (.cons hpq.2 .nil) .nil
    | @cons p' q' as bs hpq' _ =>
      obtain ⟨k', a'⟩ := p'
      obtain ⟨l', b'⟩ := q'
      obtain rfl : k' = l' := hpq'.1
      have hjoin := forall₂_modifyHead hpq.2 ih
      cases k' with
      | filter => exact hjoin
      | and => exact hjoin
      | or => exact .cons (.cons hpq.2 .nil) ih

def Connective.tokens : Connective → List Token
  | filter => []
  | and => [.word "AND"]
  | or => [.word "OR"]

theorem tokens_alternatives (k : Connective) (c : Condition) (rest : List (Connective × Condition))
    (h : ∀ p ∈ rest, p.1 ≠ .filter) :
    c.tokens ++ (rest.map fun p => p.1.tokens ++ p.2.tokens).flatten =
      Filter.tokens (alternatives ((k, c) :: rest)) := by
  induction rest generalizing k c with
  | nil => simp [alternatives, Filter.tokens, conjunctionTokens]
  | cons p rest ih =>
    obtain ⟨l, next⟩ := p
    have hrest := ih l next fun q hq => h q (List.mem_cons_of_mem _ hq)
    obtain ⟨group, groups, hgroups⟩ :=
      List.exists_cons_of_ne_nil (alternatives_ne_nil (l, next) rest)
    have hgroup : group ≠ [] :=
      ne_nil_of_mem_alternatives ((l, next) :: rest) group (by simp [hgroups])
    cases l with
    | filter => exact absurd rfl (h _ (List.mem_cons_self ..))
    | and =>
      -- the condition goes in front of the alternative that the next call belongs to
      obtain ⟨first, others, rfl⟩ := List.exists_cons_of_ne_nil hgroup
      rw [hgroups] at hrest
      have hstep : alternatives ((k, c) :: (.and, next) :: rest) =
          (c :: first :: others) :: groups := by simp [alternatives, hgroups]
      rw [hstep, List.map_cons, List.flatten_cons, List.append_assoc, hrest]
      cases groups <;> simp [Filter.tokens, conjunctionTokens, Connective.tokens]
    | or =>
      have hstep : alternatives ((k, c) :: (.or, next) :: rest) =
          [c] :: alternatives ((.or, next) :: rest) := rfl
      rw [hstep, List.map_cons, List.flatten_cons, List.append_assoc, hrest, hgroups]
      simp [Filter.tokens, conjunctionTokens, Connective.tokens]

theorem Connective.spells_sql (k : Connective) {text : String} {ts : List Token}
    (h : Spells text.toList ts) : Spells (k.sql ++ text).toList (k.tokens ++ ts) := by
  cases k with
  | filter => simpa [sql, tokens] using h
  | and => simpa [sql, tokens] using (spells_word (w := "AND") (by decide)).blank h
  | or => simpa [sql, tokens] using (spells_word (w := "OR") (by decide)).blank h

namespace Conditions

structure Say (s : Schema) (ps : List (Connective × Comparison)) (cs : Conditions) : Prop where
  started : cs.started = true ↔ ps ≠ []
  -- Only the first call is one of `filter`.
  chained : ∀ i p, ps[i]? = some p → (p.1 = .filter ↔ i = 0)
  spelled : List.Forall₂ (fun p text => ∃ q : Connective × Condition,
    (p.1 = q.1 ∧ ReadsAs s p.2 q.2) ∧ Spells text.toList (q.1.tokens ++ q.2.tokens)) ps cs.fragments

theorem say_nil (s : Schema) : Say s [] {} where
  started := by simp
  chained := by simp
  spelled := .nil

theorem fragment_cases {d : Dialect} {s : Schema} {started : Bool} {k : Connective}
    {p : Comparison} {sql : String} (h : fragment d s started k p.column p.op p.value = .ok sql) :
    (k = .filter ↔ started = false) ∧
      ∃ text, conditionSql d s p.column p.op p.value = .ok text ∧ sql = k.sql ++ text := by
  have hjoin : ∀ {x : Except Error String}, (do return k.sql ++ (← x)) = .ok sql →
      ∃ text, x = .ok text ∧ sql = k.sql ++ text := by
    intro x hx
    obtain ⟨text, htext, hx⟩ := except_bind_eq_ok hx
    exact ⟨text, htext, (Except.ok.inj hx).symm⟩
  unfold fragment at h
  split at h
  · contradiction
  · contradiction
  · contradiction
  · rename_i hfilter hand hor
    refine ⟨?_, hjoin h⟩
    cases k <;> cases started <;> simp_all

theorem push_cases {d : Dialect} {s : Schema} {k : Connective} {p : Comparison} {cs : Conditions}
    (h : (cs.push d s k p.column p.op p.value).error = none) :
    cs.error = none ∧ ∃ sql, fragment d s cs.started k p.column p.op p.value = .ok sql ∧
      cs.push d s k p.column p.op p.value =
        { cs with fragments := cs.fragments ++ [sql], started := true } := by
  unfold push at h ⊢
  split at h
  · rename_i sql hsql
    exact ⟨h, sql, hsql, rfl⟩
  · simp [fail] at h

theorem Say.push {d : Dialect} {s : Schema} {ps : List (Connective × Comparison)}
    {cs : Conditions} (hcs : cs.Say s ps) {k : Connective} {p : Comparison}
    (h : (cs.push d s k p.column p.op p.value).error = none) :
    (cs.push d s k p.column p.op p.value).Say s (ps ++ [(k, p)]) := by
  obtain ⟨_, sql, hsql, hpush⟩ := push_cases h
  obtain ⟨hfirst, text, htext, rfl⟩ := fragment_cases hsql
  obtain ⟨c, hc, hspells⟩ := conditionSql_spells htext
  rw [hpush]
  refine ⟨by simp, fun i q hq => ?_, ?_⟩
  · rcases Nat.lt_trichotomy i ps.length with hlt | rfl | hgt
    · rw [List.getElem?_append_left hlt] at hq
      exact hcs.chained i q hq
    · obtain rfl : q = (k, p) := by simpa using hq.symm
      rw [hfirst, ← Bool.not_eq_true, hcs.started]
      simp
    · rw [List.getElem?_eq_none (by simp; omega)] at hq
      contradiction
  · exact List.rel_append hcs.spelled (.cons ⟨(k, c), ⟨rfl, hc⟩, k.spells_sql hspells⟩ .nil)

theorem Say.alternatives {s : Schema} {ps : List (Connective × Comparison)} {cs : Conditions}
    (h : cs.Say s ps) :
    ∃ f : Filter, f.Proper ∧
      List.Forall₂ (List.Forall₂ (ReadsAs s)) (RecordMapper.alternatives ps) f ∧
      Spells (" ".intercalate cs.fragments).toList f.tokens ∧ (cs.fragments = [] ↔ f = []) := by
  obtain ⟨qs, hqs, hspelled⟩ := exists_between h.spelled
  refine ⟨RecordMapper.alternatives qs, ne_nil_of_mem_alternatives qs, forall₂_alternatives hqs,
    ?_, ?_⟩
  · have hjoin := spells_join (List.forall₂_map_right_iff.2 hspelled)
    cases hqs with
    | nil => exact hjoin
    | @cons p q ps qs hpq hrest =>
      obtain ⟨k, c⟩ := q
      have hfirst : k = .filter := hpq.1.symm.trans ((h.chained 0 p rfl).2 rfl)
      -- only the first fragment has no connective in front
      have hothers : ∀ q ∈ qs, q.1 ≠ .filter := by
        intro q hq hfilter
        obtain ⟨i, hi, rfl⟩ := List.getElem_of_mem hq
        have hi' : i < ps.length := by rwa [hrest.length_eq]
        have hsame := (List.forall₂_iff_get.1 hrest).2 i hi' hi
        have := (h.chained (i + 1) ps[i] (by simp [hi'])).1 (hsame.1.trans hfilter)
        contradiction
      rw [← tokens_alternatives k c qs hothers]
      simpa [hfirst, Connective.tokens] using hjoin
  · rw [alternatives_eq_nil, ← List.length_eq_zero_iff, ← List.length_eq_zero_iff,
      hspelled.length_eq]

end Conditions

end RecordMapper
