import Mathlib.Data.List.Forall2
import RecordMapper.Proofs.Sql.Commands

namespace RecordMapper.Sql

open Token

structure Together (ts : List Token) : Prop where
  whole : Whole 0 ts
  closed : Closed ts

theorem Together.append {ts us : List Token} (ht : Together ts) (hu : Together us) :
    Together (ts ++ us) := ⟨ht.whole.append hu.whole, ht.closed.append hu.closed⟩

theorem together_plain {ts : List Token} (h : ∀ s, symbol s ∈ ts → s = "-") : Together ts := by
  have hopen : symbol "(" ∉ ts := fun hmem => absurd (h _ hmem) (by decide)
  have hclose : symbol ")" ∉ ts := fun hmem => absurd (h _ hmem) (by decide)
  have hcomma : symbol "," ∉ ts := fun hmem => absurd (h _ hmem) (by decide)
  exact ⟨whole_plain hopen hclose (.inl hcomma), closed_plain hopen hclose⟩

theorem together_parenthesised {ts : List Token} (h : ∀ s, symbol s ∈ ts → s = ",") :
    Together (symbol "(" :: (ts ++ [symbol ")"])) := by
  have hopen : symbol "(" ∉ ts := fun hmem => absurd (h _ hmem) (by decide)
  have hclose : symbol ")" ∉ ts := fun hmem => absurd (h _ hmem) (by decide)
  exact ⟨(whole_plain hopen hclose (.inr (by decide))).parenthesised,
    (closed_plain hopen hclose).parenthesised⟩

inductive TypeName : String → List Token → Prop
  | bare {w : String} : isWord w.toList = true → TypeName w [word w]
  | sized {w : String} (length : Nat) : isWord w.toList = true →
      TypeName (w ++ "(" ++ String.ofList (Numeral.digits length) ++ ")")
        [word w, symbol "(", .number length, symbol ")"]

theorem TypeName.spells {type : String} {ts : List Token} (h : TypeName type ts) :
    Spells type.toList ts := by
  cases h with
  | bare hw => exact spells_word hw
  | sized length hw =>
    have hlength := (spells_number length).parenthesised
    simpa using (spells_word hw).append hlength (apart_cons.2 (by decide))

theorem TypeName.together {type : String} {ts : List Token} (h : TypeName type ts) :
    Together ts := by
  cases h with
  | bare => exact together_plain (by simp)
  | @sized w length =>
    have hword : Together [word w] := together_plain (by simp)
    have hlength : Together [symbol "(", .number length, symbol ")"] :=
      @together_parenthesised [.number length] (by simp)
    exact hword.append hlength

theorem TypeName.column {type : String} {ts : List Token} (h : TypeName type ts) (name : String)
    {rest : List Token} (hrest : rest.head? ≠ some (symbol "(")) :
    column? (.name name :: (ts ++ rest)) = columnOptions? { name, type } rest := by
  cases h with
  | bare hw =>
    rw [column?.eq_def]
    split <;> simp_all
  | sized length hw => rfl

inductive DefaultClause : Option Literal → List Token → Prop
  | absent : DefaultClause none []
  | literal {l : Literal} : l ≠ .default → DefaultClause (some l) (word "DEFAULT" :: l.tokens)
  | call : DefaultClause (some .now) [word "DEFAULT", word "now", symbol "(", symbol ")"]

theorem DefaultClause.together {default : Option Literal} {ts : List Token}
    (h : DefaultClause default ts) : Together ts := by
  cases h with
  | absent => exact together_plain nofun
  | @literal l =>
    refine together_plain fun s hs => ?_
    have hmem : symbol s ∈ l.tokens := by simpa using hs
    exact symbol_mem_literal hmem
  | call =>
    have hwords : Together [word "DEFAULT", word "now"] := together_plain (by simp)
    exact hwords.append (@together_parenthesised [] nofun)

theorem DefaultClause.options {default : Option Literal} {ts : List Token}
    (h : DefaultClause default ts) {c : ColumnDefinition} (hc : c.default = none)
    (rest : List Token) :
    columnOptions? c (ts ++ rest) = columnOptions? { c with default } rest := by
  cases h with
  | absent => rw [← hc, List.nil_append]
  | @literal l hl =>
    cases l with
    | integer i => cases i <;> rfl
    | default => contradiction
    | _ => rfl
  | call => rfl

def keyTokens (keys : Nat) : List Token :=
  (List.replicate keys [word "PRIMARY", word "KEY"]).flatten

theorem keyTokens_succ (keys : Nat) :
    keyTokens (keys + 1) = keyTokens keys ++ [word "PRIMARY", word "KEY"] := by
  simp [keyTokens, List.replicate_succ']

theorem keys_options (c : ColumnDefinition) (keys : Nat) (rest : List Token) :
    columnOptions? c (keyTokens keys ++ rest) =
      columnOptions? { c with keys := c.keys + keys } rest := by
  induction keys generalizing rest with
  | zero => rfl
  | succ keys ih =>
    rw [keyTokens_succ, List.append_assoc, ih]
    rfl

def markTokens (unique notNull : Bool) : List Token :=
  (if unique then [word "UNIQUE"] else []) ++ (if notNull then [word "NOT", word "NULL"] else [])

theorem marks_options {c : ColumnDefinition} (hunique : c.unique = false)
    (hnotNull : c.notNull = false) (unique notNull : Bool) :
    columnOptions? c (markTokens unique notNull) = some { c with unique, notNull } := by
  cases c
  cases hunique
  cases hnotNull
  cases unique <;> cases notNull <;> rfl

def columnTokens (name : String) (type default : List Token) (keys : Nat)
    (unique notNull : Bool) : List Token :=
  .name name :: (type ++ (default ++ (keyTokens keys ++ markTokens unique notNull)))

section column

variable {name type : String} {default : Option Literal} {ts us : List Token}

theorem column_read (htype : TypeName type ts) (hdefault : DefaultClause default us) (keys : Nat)
    (unique notNull : Bool) : column? (columnTokens name ts us keys unique notNull) =
      some { name, type, default, keys, unique, notNull } := by
  have hrest : (us ++ (keyTokens keys ++ markTokens unique notNull)).head? ≠
      some (symbol "(") := by
    cases hdefault with
    | absent => cases keys <;> cases unique <;> cases notNull <;> nofun
    | literal => nofun
    | call => nofun
  rw [columnTokens, htype.column name hrest, hdefault.options rfl, keys_options,
    marks_options rfl rfl, Nat.zero_add]

theorem column_together (htype : TypeName type ts) (hdefault : DefaultClause default us)
    (keys : Nat) (unique notNull : Bool) :
    Together (columnTokens name ts us keys unique notNull) := by
  have hname : Together [.name name] := together_plain (by simp)
  have hkeys : Together (keyTokens keys) := together_plain (by simp [keyTokens])
  have hmarks : Together (markTokens unique notNull) :=
    together_plain (by cases unique <;> cases notNull <;> simp [markTokens])
  exact hname.append (htype.together.append (hdefault.together.append (hkeys.append hmarks)))

end column

def actionTokens : ReferentialAction → List Token
  | .cascade => [word "CASCADE"]
  | .restrict => [word "RESTRICT"]
  | .setNull => [word "SET", word "NULL"]
  | .setDefault => [word "SET", word "DEFAULT"]
  | .noAction => [word "NO", word "ACTION"]

def onTokens (event : String) : Option ReferentialAction → List Token
  | none => []
  | some action => word "ON" :: word event :: actionTokens action

theorem actions_read (onDelete onUpdate : Option ReferentialAction) :
    actions? (onTokens "DELETE" onDelete ++ onTokens "UPDATE" onUpdate) =
      some (onDelete, onUpdate) := by
  rcases onDelete with _ | onDelete <;> rcases onUpdate with _ | onUpdate
  · rfl
  · cases onUpdate <;> rfl
  · cases onDelete <;> rfl
  · cases onDelete <;> cases onUpdate <;> rfl

def foreignKeyTokens (fk : ForeignKeyDefinition) : List Token :=
  word "CONSTRAINT" :: name fk.name :: word "FOREIGN" :: word "KEY" :: symbol "(" ::
    name fk.column :: symbol ")" :: word "REFERENCES" :: name fk.parentTable :: symbol "(" ::
      (namesTokens fk.parentColumns ++
        symbol ")" :: (onTokens "DELETE" fk.onDelete ++ onTokens "UPDATE" fk.onUpdate))

theorem foreignKey_read (fk : ForeignKeyDefinition) :
    foreignKey? (foreignKeyTokens fk) = some fk := by
  have hclosing := fun rest => untilClosing_plain (namesTokens fk.parentColumns) rest
    (fun h => absurd (symbol_mem_names h) (by decide))
    (fun h => absurd (symbol_mem_names h) (by decide))
  simp [foreignKeyTokens, foreignKey?, parenthesised?, hclosing, actions_read, names_read]

theorem foreignKey_together (fk : ForeignKeyDefinition) : Together (foreignKeyTokens fk) := by
  have hname : Together [word "CONSTRAINT", name fk.name, word "FOREIGN", word "KEY"] :=
    together_plain (by simp)
  have hcolumn : Together [symbol "(", name fk.column, symbol ")"] :=
    @together_parenthesised [name fk.column] (by simp)
  have hparent : Together [word "REFERENCES", name fk.parentTable] := together_plain (by simp)
  have hparents : Together (symbol "(" :: (namesTokens fk.parentColumns ++ [symbol ")"])) :=
    together_parenthesised fun s => symbol_mem_names
  have hon : ∀ event action, Together (onTokens event action) := fun event action => by
    refine together_plain ?_
    rcases action with _ | action
    · simp [onTokens]
    · cases action <;> simp [onTokens, actionTokens]
  simpa [foreignKeyTokens] using hname.append (hcolumn.append (hparent.append (hparents.append
    ((hon "DELETE" fk.onDelete).append (hon "UPDATE" fk.onUpdate)))))

structure Defines (c : ColumnDefinition) (ts : List Token) : Prop where
  read : column? ts = some c
  named : ∃ rest, ts = .name c.name :: rest
  together : Together ts

structure Item (ofForeignKey : Bool) (ts : List Token) : Prop where
  kind : isForeignKey ts = ofForeignKey
  ne_nil : ts ≠ []
  together : Together ts

theorem Defines.item {c : ColumnDefinition} {ts : List Token} (h : Defines c ts) :
    Item false ts := by
  obtain ⟨rest, rfl⟩ := h.named
  exact ⟨rfl, List.cons_ne_nil _ _, h.together⟩

theorem foreignKey_item (fk : ForeignKeyDefinition) : Item true (foreignKeyTokens fk) :=
  ⟨rfl, List.cons_ne_nil _ _, foreignKey_together fk⟩

theorem columns_read {columns : List (List Token)} {cs : List ColumnDefinition}
    (h : List.Forall₂ Defines cs columns) : columns.mapM column? = some cs := by
  induction h with
  | nil => rfl
  | cons hc _ ih => simp [hc.read, ih]

theorem columns_item {columns : List (List Token)} {cs : List ColumnDefinition}
    (h : List.Forall₂ Defines cs columns) : ∀ ts ∈ columns, Item false ts := by
  induction h with
  | nil => nofun
  | cons hc _ ih => exact List.forall_mem_cons.2 ⟨hc.item, ih⟩

theorem closed_commas {lists : List (List Token)} (h : ∀ ts ∈ lists, Closed ts) :
    Closed ([symbol ","].intercalate lists) := by
  induction lists with
  | nil => exact closed_nil
  | cons ts lists ih =>
    obtain ⟨hts, hlists⟩ := List.forall_mem_cons.1 h
    cases lists with
    | nil => simpa using hts
    | cons us lists =>
      rw [List.intercalate_cons_cons]
      exact (hts.append (closed_plain (by simp) (by simp))).append (ih hlists)

theorem table_of_items (name : String) {columns keys : List (List Token)}
    (hcolumns : ∀ ts ∈ columns, Item false ts) (hkeys : ∀ ts ∈ keys, Item true ts) :
    table? name (symbol "(" :: ([symbol ","].intercalate (columns ++ keys) ++ [symbol ")"])) = do
      let columns ← columns.mapM column?
      let foreignKeys ← keys.mapM foreignKey?
      return { name, columns, foreignKeys } := by
  have htogether : ∀ ts ∈ columns ++ keys, ts ≠ [] ∧ Together ts := fun ts hts =>
    (List.mem_append.1 hts).elim (fun hts => ⟨(hcolumns ts hts).ne_nil, (hcolumns ts hts).together⟩)
      fun hts => ⟨(hkeys ts hts).ne_nil, (hkeys ts hts).together⟩
  have hclosing := (closed_commas fun ts hts => (htogether ts hts).2.closed).until []
  have hitems : listItems ([symbol ","].intercalate (columns ++ keys)) = columns ++ keys :=
    listItems_commas (fun ts hts => (htogether ts hts).1) fun ts hts => (htogether ts hts).2.whole
  have hfirst : (columns ++ keys).filter (fun item => !isForeignKey item) = columns := by
    rw [List.filter_append, List.filter_eq_self.2 fun ts hts => by simp [(hcolumns ts hts).kind],
      List.filter_eq_nil_iff.2 fun ts hts => by simp [(hkeys ts hts).kind], List.append_nil]
  have hsecond : (columns ++ keys).filter isForeignKey = keys := by
    rw [List.filter_append, List.filter_eq_nil_iff.2 fun ts hts => by simp [(hcolumns ts hts).kind],
      List.filter_eq_self.2 fun ts hts => (hkeys ts hts).kind, List.nil_append]
  rw [table?, parenthesised?, hclosing]
  show ((listItems _).filter _).mapM column? >>= (fun cs =>
    ((listItems _).filter isForeignKey).mapM foreignKey? >>= _) = _
  rw [hitems, hfirst, hsecond]

def tableTokens (table : String) (columns : List (List Token))
    (foreignKeys : List ForeignKeyDefinition) : List Token :=
  word "CREATE" :: word "TABLE" :: word "IF" :: word "NOT" :: word "EXISTS" :: name table ::
    symbol "(" :: ([symbol ","].intercalate (columns ++ foreignKeys.map foreignKeyTokens) ++
      [symbol ")"])

theorem command_table (table : String) (ts : List Token) :
    command? (word "CREATE" :: word "TABLE" :: word "IF" :: word "NOT" :: word "EXISTS" ::
      name table :: ts) = (table? table ts).map (.createTable · true) := rfl

theorem table_read (table : String) {columns : List (List Token)} {cs : List ColumnDefinition}
    (h : List.Forall₂ Defines cs columns) (foreignKeys : List ForeignKeyDefinition) :
    command? (tableTokens table columns foreignKeys) =
      some (.createTable { name := table, columns := cs, foreignKeys } true) := by
  have hkeys : ∀ ts ∈ foreignKeys.map foreignKeyTokens, Item true ts := by
    intro ts hts
    obtain ⟨fk, _, rfl⟩ := List.mem_map.1 hts
    exact foreignKey_item fk
  have hforeignKeys : (foreignKeys.map foreignKeyTokens).mapM foreignKey? = some foreignKeys :=
    mapM_map_eq_some fun fk _ => foreignKey_read fk
  rw [tableTokens, command_table, table_of_items table (columns_item h) hkeys, columns_read h,
    hforeignKeys]
  rfl

end RecordMapper.Sql
