import RecordMapper.Proofs.Sql.Tokens

namespace RecordMapper.Sql

open Token

theorem consFirst_eq (t : Token) (lists : List (List Token)) (h : lists ≠ []) :
    consFirst t lists = lists.modifyHead (t :: ·) := by
  cases lists with
  | nil => contradiction
  | cons list lists => rfl

theorem splitCommas_ne_nil (depth : Nat) (ts : List Token) : splitCommas depth ts ≠ [] := by
  have hcons : ∀ t lists, consFirst t lists ≠ [] := fun t lists => by
    cases lists <;> simp [consFirst]
  fun_induction splitCommas depth ts <;> simp [hcons]

/-- Whether the tokens stay together when a list is cut, at any depth from `least` on. -/
def Whole (least : Nat) (ts : List Token) : Prop :=
  ∀ depth, least ≤ depth → ∀ rest,
    splitCommas depth (ts ++ rest) = (splitCommas depth rest).modifyHead (ts ++ ·)

theorem whole_nil (least : Nat) : Whole least [] := by
  intro depth _ rest
  rw [List.nil_append]
  cases splitCommas depth rest <;> rfl

theorem Whole.append {least : Nat} {ts us : List Token} (ht : Whole least ts)
    (hu : Whole least us) : Whole least (ts ++ us) := by
  intro depth hdepth rest
  rw [List.append_assoc, ht depth hdepth, hu depth hdepth, List.modifyHead_modifyHead]
  congr 1
  funext vs
  simp

theorem splitCommas_plain {depth : Nat} {t : Token} {ts : List Token} (hopen : t ≠ symbol "(")
    (hclose : t ≠ symbol ")") (hcomma : t ≠ symbol "," ∨ depth ≠ 0) :
    splitCommas depth (t :: ts) = consFirst t (splitCommas depth ts) := by
  rw [splitCommas.eq_def]
  split <;> simp_all

theorem whole_plain {least : Nat} {ts : List Token} (hopen : symbol "(" ∉ ts)
    (hclose : symbol ")" ∉ ts) (hcomma : symbol "," ∉ ts ∨ least ≠ 0) : Whole least ts := by
  induction ts with
  | nil => exact whole_nil least
  | cons t ts ih =>
    simp only [List.mem_cons, not_or] at hopen hclose hcomma
    have hts := ih hopen.2 hclose.2 (hcomma.imp And.right id)
    intro depth hdepth rest
    have hdepth' : t ≠ symbol "," ∨ depth ≠ 0 := by
      rcases hcomma with h | h
      · exact .inl (Ne.symm h.1)
      · exact .inr (by omega)
    rw [List.cons_append, splitCommas_plain (Ne.symm hopen.1) (Ne.symm hclose.1) hdepth',
      hts depth hdepth, consFirst_eq _ _ (by simp [splitCommas_ne_nil]), List.modifyHead_modifyHead]
    rfl

theorem Whole.parenthesised {ts : List Token} (h : Whole 1 ts) :
    Whole 0 (symbol "(" :: (ts ++ [symbol ")"])) := by
  intro depth _ rest
  -- inside the parentheses the depth is not 0, so no comma cuts there
  have hopen : ∀ us, splitCommas depth (symbol "(" :: us) =
      consFirst (symbol "(") (splitCommas (depth + 1) us) := fun us => by
    rw [splitCommas.eq_def]
    split <;> simp_all
  have hclose : splitCommas (depth + 1) (symbol ")" :: rest) =
      consFirst (symbol ")") (splitCommas depth rest) := by
    rw [splitCommas.eq_def]
    split <;> simp_all
  rw [List.cons_append, hopen, List.append_assoc, h _ (by omega), List.singleton_append, hclose,
    consFirst_eq _ _ (splitCommas_ne_nil depth rest), List.modifyHead_modifyHead,
    consFirst_eq _ _ (by simp [splitCommas_ne_nil]), List.modifyHead_modifyHead]
  congr 1
  funext us
  simp

theorem splitCommas_commas {lists : List (List Token)} (hne : lists ≠ [])
    (h : ∀ ts ∈ lists, Whole 0 ts) : splitCommas 0 ([symbol ","].intercalate lists) = lists := by
  induction lists with
  | nil => contradiction
  | cons ts lists ih =>
    have hts := h ts (List.mem_cons_self ..) 0 (Nat.le_refl 0)
    cases lists with
    | nil => simpa [splitCommas] using hts []
    | cons us lists =>
      have hlists := ih (List.cons_ne_nil _ _) fun vs hvs => h vs (List.mem_cons_of_mem ts hvs)
      rw [List.intercalate_cons_cons, List.append_assoc, hts, List.singleton_append, splitCommas,
        hlists]
      simp

theorem listItems_commas {lists : List (List Token)} (hne : ∀ ts ∈ lists, ts ≠ [])
    (h : ∀ ts ∈ lists, Whole 0 ts) : listItems ([symbol ","].intercalate lists) = lists := by
  cases lists with
  | nil => rfl
  | cons ts lists =>
    have hcut := splitCommas_commas (List.cons_ne_nil ts lists) h
    have hsome : [symbol ","].intercalate (ts :: lists) ≠ [] :=
      intercalate_ne_nil (hne ts (List.mem_cons_self ..))
    generalize [symbol ","].intercalate (ts :: lists) = us at hcut hsome
    cases us with
    | nil => contradiction
    | cons u us => exact hcut

def Closed (ts : List Token) : Prop :=
  ∀ depth rest, untilClosing? depth (ts ++ rest) =
    (untilClosing? depth rest).map fun r => (ts ++ r.1, r.2)

theorem closed_nil : Closed [] := by
  intro depth rest
  simp

theorem Closed.append {ts us : List Token} (ht : Closed ts) (hu : Closed us) :
    Closed (ts ++ us) := by
  intro depth rest
  rw [List.append_assoc, ht depth, hu depth, Option.map_map]
  congr 1
  funext r
  simp

theorem untilClosing_other {t : Token} (hopen : t ≠ symbol "(") (hclose : t ≠ symbol ")")
    (depth : Nat) (ts : List Token) : untilClosing? depth (t :: ts) =
      (untilClosing? depth ts).map fun r => (t :: r.1, r.2) := by
  rw [untilClosing?.eq_def]
  split <;> simp_all

theorem closed_plain {ts : List Token} (hopen : symbol "(" ∉ ts) (hclose : symbol ")" ∉ ts) :
    Closed ts := by
  induction ts with
  | nil => exact closed_nil
  | cons t ts ih =>
    simp only [List.mem_cons, not_or] at hopen hclose
    intro depth rest
    rw [List.cons_append, untilClosing_other (Ne.symm hopen.1) (Ne.symm hclose.1),
      ih hopen.2 hclose.2, Option.map_map]
    rfl

theorem untilClosing_open (depth : Nat) (ts : List Token) :
    untilClosing? depth (symbol "(" :: ts) =
      (untilClosing? (depth + 1) ts).map fun r => (symbol "(" :: r.1, r.2) := by
  rw [untilClosing?.eq_def]
  split <;> simp_all

theorem Closed.parenthesised {ts : List Token} (h : Closed ts) :
    Closed (symbol "(" :: (ts ++ [symbol ")"])) := by
  intro depth rest
  rw [List.cons_append, untilClosing_open, List.append_assoc, h, List.singleton_append,
    untilClosing?, Option.map_map, Option.map_map]
  congr 1
  funext r
  simp

theorem Closed.until {ts : List Token} (h : Closed ts) (rest : List Token) :
    untilClosing? 0 (ts ++ symbol ")" :: rest) = some (ts, rest) := by
  simp [h 0, untilClosing?]

theorem untilClosing_plain (ts rest : List Token) (hopen : symbol "(" ∉ ts)
    (hclose : symbol ")" ∉ ts) : untilClosing? 0 (ts ++ symbol ")" :: rest) = some (ts, rest) :=
  (closed_plain hopen hclose).until rest

def namesTokens (names : List String) : List Token :=
  [symbol ","].intercalate (names.map fun s => [name s])

def rowTokens (row : List Literal) : List Token :=
  symbol "(" :: ([symbol ","].intercalate (row.map Literal.tokens) ++ [symbol ")"])

def assignmentTokens (a : String × Literal) : List Token :=
  name a.1 :: symbol "=" :: a.2.tokens

theorem literal_ne_nil (l : Literal) : l.tokens ≠ [] := by
  cases l with
  | integer i => cases i <;> simp [Literal.tokens]
  | _ => simp [Literal.tokens]

theorem literal_whole (l : Literal) : Whole 0 l.tokens := by
  refine whole_plain ?_ ?_ (.inl ?_) <;>
    exact fun h => absurd (symbol_mem_literal h) (by decide)

theorem symbol_mem_literals {row : List Literal} {s : String}
    (h : symbol s ∈ [symbol ","].intercalate (row.map Literal.tokens)) : s = "," ∨ s = "-" := by
  rcases mem_separated h with h | ⟨l, _, h⟩
  · exact .inl (Token.symbol.inj h)
  · exact .inr (symbol_mem_literal h)

theorem row_whole (row : List Literal) : Whole 0 (rowTokens row) := by
  refine Whole.parenthesised (whole_plain ?_ ?_ (.inr (by decide))) <;>
    exact fun h => absurd (symbol_mem_literals h) (by decide)

theorem row_read (row : List Literal) : row? (rowTokens row) = some row := by
  have hclosing := untilClosing_plain ([symbol ","].intercalate (row.map Literal.tokens)) []
    (fun h => absurd (symbol_mem_literals h) (by decide))
    (fun h => absurd (symbol_mem_literals h) (by decide))
  have hitems : listItems ([symbol ","].intercalate (row.map Literal.tokens)) =
      row.map Literal.tokens :=
    listItems_commas (by simp [literal_ne_nil]) (by simp [literal_whole])
  rw [row?, rowTokens, parenthesised?, hclosing]
  show (listItems _).mapM literal? = some row
  rw [hitems]
  exact mapM_map_eq_some fun l _ => literal_tokens l

theorem symbol_mem_names {names : List String} {s : String}
    (h : symbol s ∈ namesTokens names) : s = "," := by
  rcases mem_separated h with h | ⟨n, _, h⟩
  · exact Token.symbol.inj h
  · simp at h

theorem word_not_mem_names (names : List String) (w : String) : word w ∉ namesTokens names := by
  intro h
  rcases mem_separated h with h | ⟨n, _, h⟩
  · cases h
  · simp at h

theorem names_read (names : List String) : names? (namesTokens names) = some names := by
  rw [names?, namesTokens, listItems_commas]
  · exact mapM_map_eq_some fun n _ => rfl
  · simp
  · intro ts hts
    obtain ⟨n, _, rfl⟩ := List.mem_map.1 hts
    exact whole_plain (by simp) (by simp) (.inl (by simp))

theorem assignment_read (a : String × Literal) : assignment? (assignmentTokens a) = some a := by
  simp [assignmentTokens, assignment?]

theorem assignment_whole (a : String × Literal) : Whole 0 (assignmentTokens a) := by
  have hhead : Whole 0 [name a.1, symbol "="] := whole_plain (by simp) (by simp) (.inl (by simp))
  exact hhead.append (literal_whole a.2)

theorem mem_innerWords_of_assignment {a : String × Literal} {w : String}
    (h : word w ∈ assignmentTokens a) : w ∈ innerWords := by
  simp only [assignmentTokens, List.mem_cons, reduceCtorEq, false_or] at h
  exact mem_innerWords_of_literal h

theorem cutAt_absent {w : String} {ts : List Token} (h : word w ∉ ts) :
    cutAt w ts = (ts, none) := by
  induction ts with
  | nil => rfl
  | cons t ts ih =>
    simp only [List.mem_cons, not_or] at h
    simp [cutAt, ih h.2, Ne.symm h.1]

theorem cutAt_word {w : String} {ts : List Token} (h : word w ∉ ts) (rest : List Token) :
    cutAt w (ts ++ word w :: rest) = (ts, some rest) := by
  induction ts with
  | nil => simp [cutAt]
  | cons t ts ih =>
    simp only [List.mem_cons, not_or] at h
    simp [cutAt, ih h.2, Ne.symm h.1]

theorem command_select (ts : List Token) :
    command? (word "SELECT" :: ts) = select? (cutAt "FROM" ts).1 (cutAt "FROM" ts).2 := rfl

theorem command_insert (table : String) (ts : List Token) :
    command? (word "INSERT" :: word "INTO" :: name table :: ts) = insert? table ts := rfl

theorem command_update (table : String) (ts : List Token) :
    command? (word "UPDATE" :: name table :: word "SET" :: ts) = update? table ts := rfl

theorem command_delete (table : String) (ts : List Token) :
    command? (word "DELETE" :: word "FROM" :: name table :: ts) =
      (optionalFilter? ts).map (.delete table) := rfl

def projectionTokens (columns : List String) : List Token :=
  if columns = [] then [symbol "*"] else namesTokens columns

def limitTokens : Option Nat → List Token
  | none => []
  | some n => [word "LIMIT", .number n]

def selectTokens (table : String) (columns : List String) (f : Filter) (limit : Option Nat) :
    List Token :=
  word "SELECT" :: (projectionTokens columns ++
    word "FROM" :: name table :: (whereTokens f ++ limitTokens limit))

theorem projection_read (columns : List String) :
    projection? (projectionTokens columns) = some columns := by
  by_cases h : columns = []
  · simp [projectionTokens, projection?, h]
  · have hread := names_read columns
    have hstar : symbol "*" ∉ namesTokens columns := fun hmem =>
      absurd (symbol_mem_names hmem) (by decide)
    obtain ⟨column, columns, rfl⟩ := List.exists_cons_of_ne_nil h
    have hsome : namesTokens (column :: columns) ≠ [] := intercalate_ne_nil (by simp)
    rw [projectionTokens, if_neg h]
    generalize namesTokens (column :: columns) = ts at hread hstar hsome
    rw [projection?.eq_def]
    split <;> simp_all

theorem select_read (table : String) (columns : List String) {f : Filter} (hf : f.Proper)
    (limit : Option Nat) :
    command? (selectTokens table columns f limit) = some (.select table columns f limit) := by
  have hfrom : word "FROM" ∉ projectionTokens columns := by
    rw [projectionTokens]
    split
    · simp
    · exact word_not_mem_names columns "FROM"
  have hlimit : word "LIMIT" ∉ whereTokens f := fun h => absurd (mem_of_where h) (by decide)
  have hcut : cutAt "LIMIT" (whereTokens f ++ limitTokens limit) =
      (whereTokens f, limit.map fun n => [.number n]) := by
    cases limit with
    | none => simpa [limitTokens] using cutAt_absent hlimit
    | some n => exact cutAt_word hlimit [.number n]
  rw [selectTokens, command_select, cutAt_word hfrom, select?, projection_read]
  simp only [Option.bind_eq_bind, Option.bind_some, hcut, where_read hf]
  cases limit <;> rfl

def returningTokens : Option String → List Token
  | none => []
  | some column => [word "RETURNING", name column]

def insertTokens (table : String) (columns : List String) (rows : List (List Literal))
    (returning : Option String) : List Token :=
  word "INSERT" :: word "INTO" :: name table :: symbol "(" :: (namesTokens columns ++
    symbol ")" :: word "VALUES" :: ([symbol ","].intercalate (rows.map rowTokens) ++
      returningTokens returning))

theorem insert_read (table : String) (columns : List String) {rows : List (List Literal)}
    (hrows : rows ≠ []) (returning : Option String) :
    command? (insertTokens table columns rows returning) =
      some (.insert table columns rows returning) := by
  have hclosing := fun rest => untilClosing_plain (namesTokens columns) rest
    (fun h => absurd (symbol_mem_names h) (by decide))
    (fun h => absurd (symbol_mem_names h) (by decide))
  have hreturning : word "RETURNING" ∉ [symbol ","].intercalate (rows.map rowTokens) := by
    intro h
    rcases mem_separated h with h | ⟨row, _, h⟩
    · cases h
    simp only [rowTokens, List.mem_cons, List.mem_append, reduceCtorEq, false_or,
      List.not_mem_nil, or_false] at h
    rcases mem_separated h with h | ⟨l, _, h⟩
    · cases h
    · exact absurd (mem_innerWords_of_literal h) (by decide)
  have hcut : cutAt "RETURNING" ([symbol ","].intercalate (rows.map rowTokens) ++
      returningTokens returning) = ([symbol ","].intercalate (rows.map rowTokens),
        returning.map fun column => [name column]) := by
    cases returning with
    | none => simpa [returningTokens] using cutAt_absent hreturning
    | some column => exact cutAt_word hreturning [name column]
  have hitems : splitCommas 0 ([symbol ","].intercalate (rows.map rowTokens)) =
      rows.map rowTokens := splitCommas_commas (by simpa using hrows) (by simp [row_whole])
  have hread : (rows.map rowTokens).mapM row? = some rows :=
    mapM_map_eq_some fun row _ => row_read row
  rw [insertTokens, command_insert, insert?, parenthesised?, hclosing]
  simp only [Option.bind_eq_bind, Option.bind_some, names_read, hcut, hitems, hread]
  cases returning <;> rfl

def updateTokens (table : String) (assignments : List (String × Literal)) (f : Filter) :
    List Token :=
  word "UPDATE" :: name table :: word "SET" ::
    ([symbol ","].intercalate (assignments.map assignmentTokens) ++ whereTokens f)

theorem update_read (table : String) {assignments : List (String × Literal)}
    (hassignments : assignments ≠ []) {f : Filter} (hf : f.Proper) :
    command? (updateTokens table assignments f) = some (.update table assignments f) := by
  have hwhere : word "WHERE" ∉ [symbol ","].intercalate (assignments.map assignmentTokens) := by
    intro h
    rcases mem_separated h with h | ⟨a, _, h⟩
    · cases h
    · exact absurd (mem_innerWords_of_assignment h) (by decide)
  have hwhole : ∀ ts ∈ assignments.map assignmentTokens, Whole 0 ts := by
    intro ts hts
    obtain ⟨a, _, rfl⟩ := List.mem_map.1 hts
    exact assignment_whole a
  have hitems := splitCommas_commas (by simpa using hassignments) hwhole
  have hread : (assignments.map assignmentTokens).mapM assignment? = some assignments :=
    mapM_map_eq_some fun a _ => assignment_read a
  rw [updateTokens, command_update, update?]
  by_cases h : f = []
  · simp [whereTokens, h, cutAt_absent hwhere, hitems, hread]
  · rw [whereTokens, if_neg h, cutAt_word hwhere]
    simp [hitems, hread, filter_read h hf]

def deleteTokens (table : String) (f : Filter) : List Token :=
  word "DELETE" :: word "FROM" :: name table :: whereTokens f

theorem delete_read (table : String) {f : Filter} (hf : f.Proper) :
    command? (deleteTokens table f) = some (.delete table f) := by
  rw [deleteTokens, command_delete, where_read hf, Option.map_some]

theorem Spells.command {sql : String} {ts : List Token} {command : Command}
    (h : Spells sql.toList (ts ++ [symbol ";"])) (hread : command? ts = some command) :
    Command.read? sql = some command := by
  simp [Command.read?, h.readAll, withoutEnd, hread]

def Literal.read? (sql : String) : Option Literal :=
  (Token.readAll? sql.toList).bind literal?

def Condition.read? (sql : String) : Option Condition :=
  (Token.readAll? sql.toList).bind condition?

def readAssignment? (sql : String) : Option (String × Literal) :=
  (Token.readAll? sql.toList).bind assignment?

theorem Spells.literal {sql : String} {l : Literal} (h : Spells sql.toList l.tokens) :
    Literal.read? sql = some l := by
  rw [Literal.read?, h.readAll, Option.bind_some, literal_tokens]

theorem Spells.condition {sql : String} {c : Condition} (h : Spells sql.toList c.tokens) :
    Condition.read? sql = some c := by
  rw [Condition.read?, h.readAll, Option.bind_some, condition_tokens]

theorem Spells.assignment {sql : String} {a : String × Literal}
    (h : Spells sql.toList (assignmentTokens a)) : readAssignment? sql = some a := by
  rw [readAssignment?, h.readAll, Option.bind_some, assignment_read]

end RecordMapper.Sql
