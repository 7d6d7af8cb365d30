namespace RecordMapper.Text

def double (quote : Char) : List Char → List Char
  | [] => []
  | c :: cs => if c = quote then quote :: quote :: double quote cs else c :: double quote cs

def quoted (quote : Char) (cs : List Char) : List Char := quote :: (double quote cs ++ [quote])

/-- Reads up to the first quote that is not doubled, and past it. -/
def unquote? (quote : Char) : List Char → Option (List Char × List Char)
  | [] => none
  | c :: cs =>
    if c = quote then
      match cs with
      | [] => some ([], [])
      | d :: ds => if d = quote then (unquote? quote ds).map fun r => (quote :: r.1, r.2)
        else some ([], d :: ds)
    else (unquote? quote cs).map fun r => (c :: r.1, r.2)

def readQuoted? (quote : Char) : List Char → Option (List Char × List Char)
  | [] => none
  | c :: cs => if c = quote then unquote? quote cs else none

@[simp] theorem double_nil (quote : Char) : double quote [] = [] := rfl

theorem unquote_cons_ne {quote c : Char} (cs : List Char) (h : c ≠ quote) :
    unquote? quote (c :: cs) = (unquote? quote cs).map fun r => (c :: r.1, r.2) := by
  rw [unquote?.eq_def]; simp [h]

theorem unquote_quote_quote (quote : Char) (cs : List Char) :
    unquote? quote (quote :: quote :: cs) =
      (unquote? quote cs).map fun r => (quote :: r.1, r.2) := by
  rw [unquote?.eq_def]; simp

theorem unquote_quote (quote : Char) (rest : List Char) (h : rest.head? ≠ some quote) :
    unquote? quote (quote :: rest) = some ([], rest) := by
  cases rest with
  | nil => simp [unquote?]
  | cons d ds => simp_all [unquote?]

theorem unquote_double (quote : Char) (cs rest : List Char) (h : rest.head? ≠ some quote) :
    unquote? quote (double quote cs ++ quote :: rest) = some (cs, rest) := by
  induction cs with
  | nil => exact unquote_quote quote rest h
  | cons c cs ih =>
    by_cases hc : c = quote
    · subst hc; simp [double, unquote_quote_quote, ih]
    · simp [double, hc, unquote_cons_ne, ih]

theorem readQuoted_quoted (quote : Char) (cs rest : List Char) (h : rest.head? ≠ some quote) :
    readQuoted? quote (quoted quote cs ++ rest) = some (cs, rest) := by
  simp [readQuoted?, quoted, unquote_double quote cs rest h]

theorem eq_double_of_unquote {quote : Char} {s cs rest : List Char}
    (h : unquote? quote s = some (cs, rest)) :
    s = double quote cs ++ quote :: rest ∧ rest.head? ≠ some quote := by
  fun_induction unquote? quote s generalizing cs rest with
  | case1 => simp at h
  | case2 => simp_all
  | case3 ds ih =>
    obtain ⟨r, hr, he⟩ := Option.map_eq_some_iff.1 h
    obtain ⟨rfl, rfl⟩ := Prod.mk.inj he
    simp [double, ih hr]
  | case4 d ds hd =>
    obtain ⟨rfl, rfl⟩ := Prod.mk.inj (Option.some.inj h)
    simp [double, hd]
  | case5 c cs' hc ih =>
    obtain ⟨r, hr, he⟩ := Option.map_eq_some_iff.1 h
    obtain ⟨rfl, rfl⟩ := Prod.mk.inj he
    simp [double, hc, ih hr]

end RecordMapper.Text
