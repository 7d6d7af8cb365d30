import RecordMapper.Condition.Operator
import RecordMapper.Dialect
import RecordMapper.Sql.Token

/-!
Texts that spell tokens. What follows a text may not make its last token longer, so it has to begin
with a blank, a comma, a parenthesis or a semicolon, or there is nothing more.
Main statements: quoted names and texts, numbers, words and operators spell their tokens, and so do
texts put together with blanks, commas and parentheses.
-/

namespace RecordMapper.Sql

open Token

def endsToken (c : Char) : Bool := c == ' ' || c == ',' || c == '(' || c == ')' || c == ';'

def Apart (rest : List Char) : Prop := ∀ c ∈ rest.head?, endsToken c = true

/-- Whether a text is read as the tokens, whatever stands apart behind it. -/
def Spells (cs : List Char) (ts : List Token) : Prop :=
  ∀ rest, Apart rest → readAll? (cs ++ rest) = (readAll? rest).map (ts ++ ·)

theorem apart_nil : Apart [] := fun _ h => nomatch h

theorem apart_cons {c : Char} {cs : List Char} : Apart (c :: cs) ↔ endsToken c = true := by
  simp [Apart]

theorem eq_of_endsToken {c : Char} (h : endsToken c = true) :
    c = ' ' ∨ c = ',' ∨ c = '(' ∨ c = ')' ∨ c = ';' := by
  simpa [endsToken, or_assoc] using h

theorem readAll_nil : readAll? [] = some [] := by rw [readAll?.eq_def]

theorem readAll_blank (cs : List Char) : readAll? (' ' :: cs) = readAll? cs := by
  rw [readAll?.eq_def]
  exact if_pos (by decide)

theorem readAll_first {c : Char} {cs rest : List Char} {t : Token} (hc : Text.isBlank c = false)
    (h : first? (c :: cs) = some (t, rest)) :
    readAll? (c :: cs) = (readAll? rest).map (t :: ·) := by
  rw [readAll?.eq_def]
  simp only [hc, Bool.false_eq_true, if_false]
  split
  · rename_i h'
    rw [h] at h'
    contradiction
  · rename_i h'
    rw [h] at h'
    cases h'
    rfl

theorem Spells.readAll {cs : List Char} {ts : List Token} (h : Spells cs ts) :
    readAll? cs = some ts := by
  simpa [readAll_nil] using h [] apart_nil

theorem spells_nil : Spells [] [] := by
  intro rest _
  simp

theorem spells_first {c : Char} {cs : List Char} {t : Token} (hc : Text.isBlank c = false)
    (h : ∀ rest, Apart rest → first? (c :: (cs ++ rest)) = some (t, rest)) :
    Spells (c :: cs) [t] := by
  intro rest hrest
  rw [List.cons_append, readAll_first hc (h rest hrest)]
  rfl

theorem Spells.append {as bs : List Char} {ts us : List Token} (ha : Spells as ts)
    (hb : Spells bs us) (h : Apart bs) : Spells (as ++ bs) (ts ++ us) := by
  intro rest hrest
  have hjoin : Apart (bs ++ rest) := by
    cases bs with
    | nil => exact hrest
    | cons b bs => exact apart_cons.2 (apart_cons.1 h)
  rw [List.append_assoc, ha _ hjoin, hb rest hrest, Option.map_map]
  congr 1
  funext vs
  simp

theorem Spells.afterBlank {cs : List Char} {ts : List Token} (h : Spells cs ts) :
    Spells (' ' :: cs) ts := by
  intro rest hrest
  rw [List.cons_append, readAll_blank, h rest hrest]

theorem Spells.blank {as bs : List Char} {ts us : List Token} (ha : Spells as ts)
    (hb : Spells bs us) : Spells (as ++ ' ' :: bs) (ts ++ us) :=
  ha.append hb.afterBlank (apart_cons.2 (by decide))

theorem first_mark {c : Char} (h : c ∈ [',', '(', ')', ';', '*', '-']) (rest : List Char) :
    first? (c :: rest) = some (symbol (String.ofList [c]), rest) := by
  simp only [List.mem_cons, List.not_mem_nil, or_false] at h
  rcases h with rfl | rfl | rfl | rfl | rfl | rfl <;>
    simp +decide [first?, symbol?, symbols, List.isPrefixOf]

theorem Spells.afterMark {c : Char} {cs : List Char} {ts : List Token} (h : Spells cs ts)
    (hc : c ∈ [',', '(', ')', ';', '*', '-']) :
    Spells (c :: cs) (symbol (String.ofList [c]) :: ts) := by
  have hb : Text.isBlank c = false := by
    simp only [List.mem_cons, List.not_mem_nil, or_false] at hc
    rcases hc with rfl | rfl | rfl | rfl | rfl | rfl <;> decide
  intro rest hrest
  rw [List.cons_append, readAll_first hb (first_mark hc _), h rest hrest, Option.map_map]
  rfl

theorem spells_mark {c : Char} (hc : c ∈ [',', '(', ')', ';', '*', '-']) :
    Spells [c] [symbol (String.ofList [c])] :=
  spells_nil.afterMark hc

theorem Spells.comma {as bs : List Char} {ts us : List Token} (ha : Spells as ts)
    (hb : Spells bs us) : Spells (as ++ (',' :: ' ' :: bs)) (ts ++ symbol "," :: us) :=
  ha.append (hb.afterBlank.afterMark (by decide)) (apart_cons.2 (by decide))

theorem Spells.parenthesised {cs : List Char} {ts : List Token} (h : Spells cs ts) :
    Spells ('(' :: (cs ++ [')'])) (symbol "(" :: (ts ++ [symbol ")"])) :=
  (h.append (spells_mark (by decide)) (apart_cons.2 (by decide))).afterMark (by decide)

theorem Spells.semicolon {cs : List Char} {ts : List Token} (h : Spells cs ts) :
    Spells (cs ++ [';']) (ts ++ [symbol ";"]) :=
  h.append (spells_mark (by decide)) (apart_cons.2 (by decide))

theorem first_quoted {q : Char} {s rest : List Char} (h : rest.head? ≠ some q) :
    Text.unquote? q (Text.double q s ++ [q] ++ rest) = some (s, rest) := by
  simpa using Text.unquote_double q s rest h

theorem Apart.head_ne {rest : List Char} {q : Char} (h : Apart rest) (hq : endsToken q = false) :
    rest.head? ≠ some q := by
  intro hrest
  have := h q (by simp [hrest])
  simp_all

theorem spells_name (s : String) : Spells (quoteName s).toList [name s] := by
  rw [toList_quoteName]
  refine spells_first (by decide) fun rest hrest => ?_
  rw [first?, if_pos rfl, first_quoted (hrest.head_ne (by decide))]
  simp

theorem spells_text (s : String) : Spells (quoteText s).toList [text s] := by
  rw [toList_quoteText]
  refine spells_first (by decide) fun rest hrest => ?_
  rw [first?, if_neg (by decide), if_pos rfl, first_quoted (hrest.head_ne (by decide))]
  simp

theorem span_apart {p : Char → Bool} (hp : ∀ c, endsToken c = true → p c = false)
    {cs rest : List Char} (hcs : ∀ c ∈ cs, p c = true) (hrest : Apart rest) :
    (cs ++ rest).takeWhile p = cs ∧ (cs ++ rest).dropWhile p = rest := by
  have hstop : rest.takeWhile p = [] ∧ rest.dropWhile p = rest := by
    cases rest with
    | nil => simp
    | cons c rest => simp [hp c (apart_cons.1 hrest)]
  rw [List.takeWhile_append_of_pos hcs, List.dropWhile_append_of_pos hcs]
  simp [hstop]

theorem isBlank_eq_false {c : Char} (hlow : 0x20 < c.toNat) (hhigh : c.toNat < 0x80) :
    Text.isBlank c = false := by
  simp only [Text.isBlank, Bool.or_eq_false_iff, Bool.and_eq_false_iff, beq_eq_false_iff_ne,
    decide_eq_false_iff_not]
  omega

theorem toNat_of_isDigit {c : Char} (h : c.isDigit = true) : 48 ≤ c.toNat ∧ c.toNat ≤ 57 := by
  simpa [Char.isDigit, UInt32.le_iff_toNat_le] using h

theorem toNat_of_startsWord {c : Char} (h : startsWord c = true) :
    65 ≤ c.toNat ∧ c.toNat ≤ 122 := by
  change (decide (c.val ≥ 'A'.val ∧ c.val ≤ 'Z'.val) ||
    (decide (c.val ≥ 'a'.val) && decide (c.val ≤ 'z'.val)) || c == '_') = true at h
  simp only [Bool.or_eq_true, Bool.and_eq_true, decide_eq_true_eq, beq_iff_eq,
    UInt32.le_iff_toNat_le, ge_iff_le] at h
  rcases h with (⟨h₁, h₂⟩ | ⟨h₁, h₂⟩) | rfl
  · exact ⟨h₁, Nat.le_trans h₂ (by decide)⟩
  · exact ⟨Nat.le_trans (by decide) h₁, h₂⟩
  · decide

theorem spells_number (n : Nat) : Spells (Numeral.digits n) [.number n] := by
  have hall : ∀ c ∈ Numeral.digits n, c.isDigit = true := fun _ h => Numeral.isDigit_of_mem_digits h
  have hvalue := Numeral.value_digits n
  have hne := Numeral.digits_ne_nil n
  generalize Numeral.digits n = ds at hall hvalue hne
  cases ds with
  | nil => exact absurd rfl hne
  | cons c cs =>
    have hc := hall c (List.mem_cons_self ..)
    have hrange := toNat_of_isDigit hc
    refine spells_first (isBlank_eq_false (by omega) (by omega)) fun rest hrest => ?_
    have hspan := span_apart (p := Char.isDigit) (by
      intro c hc
      rcases eq_of_endsToken hc with rfl | rfl | rfl | rfl | rfl <;> decide)
      (fun x hx => hall x (List.mem_cons_of_mem c hx)) hrest
    rw [first?, if_neg (by rintro rfl; simp at hrange), if_neg (by rintro rfl; simp at hrange),
      if_pos hc, hspan.1, hspan.2, hvalue]

def isWord : List Char → Bool
  | [] => false
  | c :: cs => startsWord c && cs.all inWord

theorem spells_word {w : String} (h : isWord w.toList = true) : Spells w.toList [word w] := by
  obtain ⟨cs, rfl⟩ : ∃ cs, w = String.ofList cs := ⟨w.toList, by simp⟩
  rw [String.toList_ofList] at h ⊢
  cases cs with
  | nil => contradiction
  | cons c cs =>
    simp only [isWord, Bool.and_eq_true, List.all_eq_true] at h
    have hrange := toNat_of_startsWord h.1
    refine spells_first (isBlank_eq_false (by omega) (by omega)) fun rest hrest => ?_
    have hspan := span_apart (p := inWord) (by
      intro c hc
      rcases eq_of_endsToken hc with rfl | rfl | rfl | rfl | rfl <;> decide) h.2 hrest
    have hdigit : ¬ c.isDigit = true := fun hc => by
      have := toNat_of_isDigit hc
      omega
    rw [first?, if_neg (by rintro rfl; simp at hrange), if_neg (by rintro rfl; simp at hrange),
      if_neg hdigit, if_pos h.1, hspan.1, hspan.2]

def operatorTokens : Operator → List Token
  | .like => [word "LIKE"]
  | .notLike => [word "NOT", word "LIKE"]
  | op => [symbol op.sql]

theorem spells_operator (op : Operator) : Spells op.sql.toList (operatorTokens op) := by
  -- A comparison could be the start of a longer one, so what stands apart has to be looked at.
  have hsymbol : ∀ s ∈ ["=", "<>", "<", "<=", ">", ">="], Spells s.toList [symbol s] := by
    intro s hs
    simp only [List.mem_cons, List.not_mem_nil, or_false] at hs
    rcases hs with rfl | rfl | rfl | rfl | rfl | rfl <;>
      refine spells_first (by decide) fun rest hrest => ?_ <;>
      cases rest with
      | nil => rfl
      | cons c rest =>
        rcases eq_of_endsToken (apart_cons.1 hrest) with rfl | rfl | rfl | rfl | rfl <;> rfl
  cases op with
  | like => exact spells_word (by decide)
  | notLike =>
    have hnot : Spells "NOT".toList [word "NOT"] := spells_word (by decide)
    have hlike : Spells "LIKE".toList [word "LIKE"] := spells_word (by decide)
    exact hnot.blank hlike
  | _ => exact hsymbol _ (by decide)

end RecordMapper.Sql
