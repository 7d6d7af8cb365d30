import RecordMapper.Proofs.Sql.Spelling
import RecordMapper.Sql.Reading

namespace RecordMapper.Sql

open Token

theorem mapM_map_eq_some {α β : Type} {f : β → Option α} {g : α → β} {as : List α}
    (h : ∀ a ∈ as, f (g a) = some a) : (as.map g).mapM f = some as := by
  induction as with
  | nil => rfl
  | cons a as ih =>
    have ha := h a (List.mem_cons_self ..)
    have has := ih fun x hx => h x (List.mem_cons_of_mem a hx)
    simp [ha, has]

theorem mem_intercalate {α : Type} {a : α} {sep : List α} {lists : List (List α)}
    (h : a ∈ sep.intercalate lists) : a ∈ sep ∨ ∃ list ∈ lists, a ∈ list := by
  induction lists with
  | nil => simp at h
  | cons list lists ih =>
    cases lists with
    | nil => exact .inr ⟨list, by simp, by simpa using h⟩
    | cons next lists =>
      rw [List.intercalate_cons_cons, List.append_assoc] at h
      rcases List.mem_append.1 h with h | h
      · exact .inr ⟨list, by simp, h⟩
      rcases List.mem_append.1 h with h | h
      · exact .inl h
      · rcases ih h with h | ⟨found, hfound, hmem⟩
        · exact .inl h
        · exact .inr ⟨found, List.mem_cons_of_mem _ hfound, hmem⟩

theorem mem_separated {α : Type} {tokens : α → List Token} {as : List α} {sep t : Token}
    (h : t ∈ [sep].intercalate (as.map tokens)) : t = sep ∨ ∃ a ∈ as, t ∈ tokens a := by
  rcases mem_intercalate h with h | ⟨ts, hts, h⟩
  · exact .inl (List.mem_singleton.1 h)
  · obtain ⟨a, ha, rfl⟩ := List.mem_map.1 hts
    exact .inr ⟨a, ha, h⟩

theorem intercalate_ne_nil {α : Type} {sep list : List α} {lists : List (List α)}
    (h : list ≠ []) : sep.intercalate (list :: lists) ≠ [] := by
  cases lists <;> simp [h]

def Literal.tokens : Literal → List Token
  | null => [word "NULL"]
  | default => [word "DEFAULT"]
  | now => [word "CURRENT_TIMESTAMP"]
  | integer (.ofNat n) => [.number n]
  | integer (.negSucc n) => [symbol "-", .number (n + 1)]
  | text s => [.text s]

def Condition.tokens : Condition → List Token
  | compare column op l => name column :: (operatorTokens op ++ l.tokens)
  | isNull column => [name column, word "IS", word "NULL"]
  | isNotNull column => [name column, word "IS", word "NOT", word "NULL"]

@[simp] theorem literal_tokens (l : Literal) : literal? l.tokens = some l := by
  cases l with
  | integer i => cases i <;> rfl
  | _ => rfl

@[simp] theorem condition_tokens (c : Condition) : condition? c.tokens = some c := by
  cases c with
  | compare column op l => cases op <;>
      simp [Condition.tokens, operatorTokens, condition?, Operator.sql, Operator.ofSql?,
        Operator.all]
  | _ => rfl

def innerWords : List String := ["NULL", "DEFAULT", "CURRENT_TIMESTAMP", "IS", "NOT", "LIKE"]

theorem mem_innerWords_of_literal {l : Literal} {w : String} (h : word w ∈ l.tokens) :
    w ∈ innerWords := by
  cases l with
  | integer i => cases i <;> simp [Literal.tokens] at h
  | _ => simp_all [Literal.tokens, innerWords]

theorem mem_innerWords_of_operator {op : Operator} {w : String} (h : word w ∈ operatorTokens op) :
    w ∈ innerWords := by
  cases op <;> simp only [operatorTokens, List.mem_cons, List.not_mem_nil, or_false, word.injEq,
    reduceCtorEq] at h
  case like => exact h ▸ by decide
  case notLike => rcases h with rfl | rfl <;> decide

theorem mem_innerWords_of_condition {c : Condition} {w : String} (h : word w ∈ c.tokens) :
    w ∈ innerWords := by
  cases c with
  | compare column op l =>
    rw [Condition.tokens, List.mem_cons, List.mem_append] at h
    rcases h with h | h | h
    · contradiction
    · exact mem_innerWords_of_operator h
    · exact mem_innerWords_of_literal h
  | isNull column =>
    simp only [Condition.tokens, List.mem_cons, List.not_mem_nil, or_false, word.injEq,
      reduceCtorEq, false_or] at h
    rcases h with rfl | rfl <;> decide
  | isNotNull column =>
    simp only [Condition.tokens, List.mem_cons, List.not_mem_nil, or_false, word.injEq,
      reduceCtorEq, false_or] at h
    rcases h with rfl | rfl | rfl <;> decide

theorem symbol_mem_literal {l : Literal} {s : String} (h : symbol s ∈ l.tokens) : s = "-" := by
  cases l with
  | integer i => cases i <;> simp_all [Literal.tokens]
  | _ => simp [Literal.tokens] at h

def conjunctionTokens (cs : List Condition) : List Token :=
  [word "AND"].intercalate (cs.map Condition.tokens)

def Filter.tokens (f : Filter) : List Token :=
  [word "OR"].intercalate (f.map conjunctionTokens)

def Filter.Proper (f : Filter) : Prop := ∀ group ∈ f, group ≠ []

theorem mem_of_conjunction {cs : List Condition} {w : String} (h : word w ∈ conjunctionTokens cs) :
    w = "AND" ∨ w ∈ innerWords := by
  rcases mem_separated h with h | ⟨c, _, h⟩
  · exact .inl (Token.word.inj h)
  · exact .inr (mem_innerWords_of_condition h)

theorem mem_of_filter {f : Filter} {w : String} (h : word w ∈ f.tokens) :
    w = "OR" ∨ w = "AND" ∨ w ∈ innerWords := by
  rcases mem_separated h with h | ⟨cs, _, h⟩
  · exact .inl (Token.word.inj h)
  · exact .inr (mem_of_conjunction h)

theorem conjunction_read {cs : List Condition} (h : cs ≠ []) :
    ((conjunctionTokens cs).splitOn (word "AND")).mapM condition? = some cs := by
  rw [conjunctionTokens, List.splitOn_intercalate _ _ (by simpa using h)]
  · exact mapM_map_eq_some fun c _ => condition_tokens c
  · intro ts hts hmem
    obtain ⟨c, _, rfl⟩ := List.mem_map.1 hts
    exact absurd (mem_innerWords_of_condition hmem) (by decide)

theorem filter_read {f : Filter} (h : f ≠ []) (hf : f.Proper) : filter? f.tokens = some f := by
  rw [filter?, Filter.tokens, List.splitOn_intercalate _ _ (by simpa using h)]
  · exact mapM_map_eq_some fun cs hcs => conjunction_read (hf cs hcs)
  · intro ts hts hmem
    obtain ⟨cs, _, rfl⟩ := List.mem_map.1 hts
    exact absurd (mem_of_conjunction hmem) (by decide)

def whereTokens (f : Filter) : List Token := if f = [] then [] else word "WHERE" :: f.tokens

theorem where_read {f : Filter} (hf : f.Proper) : optionalFilter? (whereTokens f) = some f := by
  by_cases h : f = []
  · simp [whereTokens, h, optionalFilter?]
  · rw [whereTokens, if_neg h, optionalFilter?, filter_read h hf]

theorem mem_of_where {f : Filter} {w : String} (h : word w ∈ whereTokens f) :
    w ∈ "WHERE" :: "OR" :: "AND" :: innerWords := by
  by_cases hf : f = []
  · simp [whereTokens, hf] at h
  · rw [whereTokens, if_neg hf, List.mem_cons] at h
    rcases h with h | h
    · cases h
      exact List.mem_cons_self ..
    · rcases mem_of_filter h with rfl | rfl | h
      · decide
      · decide
      · simp [h]

end RecordMapper.Sql
