import RecordMapper.Numeral.Decimal
import RecordMapper.Text.Blank
import RecordMapper.Text.Quoted

namespace RecordMapper.Sql

inductive Token
  | word (w : String)
  | name (s : String)
  | text (s : String)
  | number (n : Nat)
  | symbol (s : String)
  deriving DecidableEq

namespace Token

def startsWord (c : Char) : Bool := c.isAlpha || c == '_'

def inWord (c : Char) : Bool := c.isAlphanum || c == '_'

def symbols : List (List Char) :=
  [['<', '='], ['<', '>'], ['>', '='], ['<'], ['>'], ['='], ['('], [')'], [','], [';'], ['*'],
    ['-']]

def symbol? (cs : List Char) : Option (List Char) := symbols.find? fun s => s.isPrefixOf cs

def first? : List Char → Option (Token × List Char)
  | [] => none
  | c :: cs =>
    if c = '"' then (Text.unquote? '"' cs).map fun r => (name (String.ofList r.1), r.2)
    else if c = '\'' then (Text.unquote? '\'' cs).map fun r => (text (String.ofList r.1), r.2)
    else if c.isDigit then
      some (number (Numeral.value (c :: cs.takeWhile Char.isDigit)), cs.dropWhile Char.isDigit)
    else if startsWord c then
      some (word (String.ofList (c :: cs.takeWhile inWord)), cs.dropWhile inWord)
    else (symbol? (c :: cs)).map fun s => (symbol (String.ofList s), cs.drop (s.length - 1))

theorem length_unquote {q : Char} {cs body rest : List Char}
    (h : Text.unquote? q cs = some (body, rest)) : rest.length < cs.length := by
  have := (Text.eq_double_of_unquote h).1
  subst this
  simp only [List.length_append, List.length_cons]
  omega

theorem length_first {cs rest : List Char} {t : Token} (h : first? cs = some (t, rest)) :
    rest.length < cs.length := by
  cases cs with
  | nil => simp [first?] at h
  | cons c cs =>
    rw [first?] at h
    split at h
    · obtain ⟨r, hr, he⟩ := Option.map_eq_some_iff.1 h
      rw [← (Prod.mk.inj he).2]
      exact Nat.lt_succ_of_lt (length_unquote hr)
    split at h
    · obtain ⟨r, hr, he⟩ := Option.map_eq_some_iff.1 h
      rw [← (Prod.mk.inj he).2]
      exact Nat.lt_succ_of_lt (length_unquote hr)
    split at h
    · rw [← (Prod.mk.inj (Option.some.inj h)).2]
      exact Nat.lt_succ_of_le (List.dropWhile_sublist _).length_le
    split at h
    · rw [← (Prod.mk.inj (Option.some.inj h)).2]
      exact Nat.lt_succ_of_le (List.dropWhile_sublist _).length_le
    · obtain ⟨r, hr, he⟩ := Option.map_eq_some_iff.1 h
      rw [← (Prod.mk.inj he).2]
      exact Nat.lt_succ_of_le (List.drop_sublist _ _).length_le

def readAll? (cs : List Char) : Option (List Token) :=
  match cs with
  | [] => some []
  | c :: rest =>
    if Text.isBlank c then readAll? rest
    else
      match h : first? (c :: rest) with
      | none => none
      | some (t, rest') =>
        have := length_first h
        (readAll? rest').map (t :: ·)
  termination_by cs.length
  decreasing_by
    · exact Nat.lt_succ_self _
    · exact this

end Token

end RecordMapper.Sql
