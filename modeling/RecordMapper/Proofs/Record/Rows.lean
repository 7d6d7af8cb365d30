import RecordMapper.Proofs.Records

namespace RecordMapper

namespace Column

def Takes (c : Column) (v w : Value) : Prop := c.type.coerce v = .ok w ∧ c.Holds w

/-- Why a column of a table takes a value of a row as no other. -/
inductive Rejects (table : String) (c : Column) (v : Value) : Error → Prop
  | uncoerced : c.type.coerce v = .error e → Rejects table c v e
  | denied : c.type.coerce v = .ok w → c.Denies table w e → Rejects table c v e

def take (table : String) (c : Column) (v : Value) : Except Error Value := do
  let w ← c.type.coerce v
  Record.check table c w
  return w

def takeAll (table : String) (columns : List Column) (row : Row) : Except Error Row :=
  (columns.zip row).mapM fun p => p.1.take table p.2

variable {table : String} {c : Column} {v w : Value}

theorem take_eq_ok : c.take table v = .ok w ↔ c.Takes v w := by
  constructor
  · intro h
    obtain ⟨w', hcoerce, h⟩ := except_bind_eq_ok h
    obtain ⟨_, hcheck, h⟩ := except_bind_eq_ok h
    cases h
    exact ⟨hcoerce, Record.check_eq_ok.1 hcheck⟩
  · rintro ⟨hcoerce, hholds⟩
    simp only [take, hcoerce, bind, Except.bind, Record.check_eq_ok.2 hholds]
    rfl

theorem take_eq_error {e : Error} : c.take table v = .error e ↔ c.Rejects table v e := by
  constructor
  · intro h
    obtain h | ⟨w, hcoerce, h⟩ := except_bind_eq_error h
    · exact .uncoerced h
    obtain h | ⟨_, _, habsurd⟩ := except_bind_eq_error h
    · exact .denied hcoerce (Record.check_eq_error.1 h)
    · contradiction
  · rintro (hcoerce | ⟨hcoerce, hdenied⟩)
    · simp only [take, hcoerce]
      rfl
    · simp only [take, hcoerce, bind, Except.bind, Record.check_eq_error.2 hdenied]

theorem takeAll_cons (table : String) (c : Column) (columns : List Column) (v : Value) (row : Row) :
    takeAll table (c :: columns) (v :: row) = (c.take table v).bind fun w =>
      (takeAll table columns row).map (w :: ·) := by
  simp only [takeAll, List.zip_cons_cons, List.mapM_cons]
  rfl

theorem takeAll_eq_ok {columns : List Column} {row values : Row} :
    takeAll table columns row = .ok values ↔
      List.Forall₂ (fun p w => p.1.Takes p.2 w) (columns.zip row) values :=
  ⟨fun h => (forall₂_of_mapM h).imp fun _ _ => take_eq_ok.1,
    fun h => mapM_of_forall₂ (h.imp fun _ _ => take_eq_ok.2)⟩

theorem takeAll_eq_error {columns : List Column} {row : Row} {e : Error} :
    takeAll table columns row = .error e ↔ ∃ (i : Nat) (c : Column) (v : Value),
      columns[i]? = some c ∧ row[i]? = some v ∧ c.Rejects table v e ∧
      ∀ j < i, ∀ (c' : Column) (v' : Value), columns[j]? = some c' → row[j]? = some v' →
        ∃ w, c'.Takes v' w := by
  simp only [takeAll, mapM_eq_error_iff, Prod.exists, Prod.forall, List.getElem?_zip_eq_some,
    take_eq_error, take_eq_ok, and_assoc, and_imp]

theorem holds_of_takeAll {columns : List Column} {row values : Row}
    (hrow : row.length = columns.length) (h : takeAll table columns row = .ok values) :
    List.Forall₂ Holds columns values := by
  rw [← List.map_fst_zip (Nat.le_of_eq hrow.symm), List.forall₂_map_left_iff]
  exact (takeAll_eq_ok.1 h).imp fun _ _ htakes => htakes.2

theorem Holds.takes (h : c.Holds v) : c.Takes v v := by
  refine ⟨?_, h⟩
  rcases h with ⟨rfl, -⟩ | hvalid
  · exact c.type.coerce_null
  · exact ColumnType.coerce_same (by simpa [ColumnType.validate] using hvalid)

theorem takeAll_of_holds {columns : List Column} {values : Row}
    (h : List.Forall₂ Holds columns values) : takeAll table columns values = .ok values := by
  induction h with
  | nil => rfl
  | cons hv _ ih =>
    rw [takeAll_cons, take_eq_ok.2 hv.takes, ih]
    rfl

end Column

namespace Record

def parts (r : Record) : Schema × List Value := (r.schema, r.values)

theorem set_of_refused {r : Record} (hs : r.schema.columnNames.Nodup) {c : Column} {i : Nat}
    {v : Value} {e : Error} (hc : r.schema.columns[i]? = some c)
    (h : check r.schema.table c v = .error e) : r.set c.name v = .error e := by
  rw [set, Schema.column_of_getElem? hs hc, Schema.index_of_getElem? hs hc]
  simp only [h]
  rfl

theorem setRow_parts {r : Record} (hs : r.schema.columnNames.Nodup) (before : List Column)
    (kept : List Value) {columns : List Column} {rest : List Value} {row : Row}
    (hcolumns : r.schema.columns = before ++ columns) (hvalues : r.values = kept ++ rest)
    (hkept : kept.length = before.length) (hrow : row.length = columns.length) :
    (r.setRow columns row).map parts =
      (Column.takeAll r.schema.table columns row).map fun values => (r.schema, kept ++ values) := by
  have hlength : rest.length = columns.length := by
    have := r.length_values
    rw [hcolumns, hvalues, List.length_append, List.length_append] at this
    omega
  -- `kept` are the values set so far, so the next column stands at their number
  induction columns generalizing r before kept rest row with
  | nil =>
    obtain rfl := List.length_eq_zero_iff.1 hrow
    obtain rfl := List.length_eq_zero_iff.1 hlength
    simpa [Column.takeAll, setRow, parts, Except.map, pure, Except.pure] using hvalues
  | cons c columns ih =>
    obtain ⟨v, row, rfl⟩ := List.exists_cons_of_length_eq_add_one hrow
    obtain ⟨_, rest, rfl⟩ := List.exists_cons_of_length_eq_add_one hlength
    have hc : r.schema.columns[kept.length]? = some c := by simp [hcolumns, hkept]
    rw [Column.takeAll_cons, setRow, Column.take]
    cases c.type.coerce v with
    | error e => rfl
    | ok w =>
      cases hcheck : check r.schema.table c w with
      | error e =>
        simp only [bind, Except.bind, set_of_refused hs hc hcheck, hcheck]
        rfl
      | ok u =>
        obtain ⟨next, hset, hschema, hnext⟩ := set_eq_ok hs hc (check_eq_ok.1 hcheck)
        have hkept' : next.values = (kept ++ [w]) ++ rest := by simp [hnext, hvalues]
        have hrest := ih (r := next) (by rwa [hschema]) (before ++ [c]) (kept ++ [w])
          (by simp [hschema, hcolumns]) hkept' (by simp [hkept]) (by simpa using hrow)
          (by simpa using hlength)
        simp only [bind, Except.bind, hset, hrest, hschema, hcheck]
        cases Column.takeAll r.schema.table columns row with
        | error e => rfl
        | ok values => simp [pure, Except.pure, Except.map, List.append_assoc]

theorem ofRow_parts {s : Schema} (hs : s.columnNames.Nodup) {row : Row}
    (hrow : row.length = s.columns.length) :
    (Record.ofRow s row).map parts =
      (Column.takeAll s.table s.columns row).map fun values => (s, values) := by
  rw [Record.ofRow, if_pos hrow]
  exact setRow_parts (r := Record.empty s) hs [] [] rfl rfl rfl hrow

theorem ofRow_of_takeAll {s : Schema} (hs : s.columnNames.Nodup) {row values : Row}
    (hrow : row.length = s.columns.length) (h : Column.takeAll s.table s.columns row = .ok values) :
    ∃ r, Record.ofRow s row = .ok r ∧ r.schema = s ∧ r.values = values := by
  have hparts := ofRow_parts hs hrow
  rw [h] at hparts
  obtain ⟨r, hr, hmade⟩ := except_map_eq_ok hparts
  obtain ⟨hschema, hvalues⟩ := Prod.mk.inj hmade
  exact ⟨r, hr, hschema, hvalues⟩

theorem ofRow_inv {s : Schema} (hs : s.columnNames.Nodup) {row : Row} {r : Record}
    (h : Record.ofRow s row = .ok r) :
    row.length = s.columns.length ∧ r.schema = s ∧
      Column.takeAll s.table s.columns row = .ok r.values := by
  have hrow : row.length = s.columns.length := by
    by_contra hrow
    rw [Record.ofRow, if_neg hrow] at h
    contradiction
  have hparts := ofRow_parts hs hrow
  rw [h] at hparts
  obtain ⟨values, htaken, hmade⟩ := except_map_eq_ok hparts.symm
  obtain ⟨hschema, hvalues⟩ := Prod.mk.inj hmade
  exact ⟨hrow, hschema.symm, htaken.trans (congrArg Except.ok hvalues)⟩

theorem ofRow_eq_error {s : Schema} (hs : s.columnNames.Nodup) {row : Row}
    (hrow : row.length = s.columns.length) {e : Error} :
    Record.ofRow s row = .error e ↔ Column.takeAll s.table s.columns row = .error e := by
  have hparts := ofRow_parts hs hrow
  constructor
  · intro h
    rw [h] at hparts
    exact except_map_eq_error hparts.symm
  · intro h
    rw [h] at hparts
    exact except_map_eq_error hparts

theorem ofRow_eq_ok {s : Schema} (hs : s.columnNames.Nodup) {row : List (Value × Value)}
    (hrow : List.Forall₂ (fun c p => c.Takes p.1 p.2) s.columns row) :
    ∃ r, Record.ofRow s (row.map Prod.fst) = .ok r ∧ r.schema = s ∧
      r.values = row.map Prod.snd := by
  refine ofRow_of_takeAll hs (by simpa using hrow.length_eq.symm) ?_
  generalize s.columns = columns at hrow
  induction hrow with
  | nil => rfl
  | cons hp _ ih =>
    rw [List.map_cons, List.map_cons, Column.takeAll_cons, ih, Column.take_eq_ok.2 hp]
    rfl

theorem get_of_getElem? {r : Record} (hs : r.schema.columnNames.Nodup) {i : Nat} {c : Column}
    (hc : r.schema.columns[i]? = some c) : r.get? c.name = r.values[i]? := by
  rw [get?, Schema.index_of_getElem? hs hc, Option.bind_some]

theorem lookup_reverse {α β : Type} [DecidableEq α] {pairs : List (α × β)}
    (h : (pairs.map Prod.fst).Nodup) (a : α) : pairs.reverse.lookup a = pairs.lookup a := by
  induction pairs with
  | nil => rfl
  | cons p pairs ih =>
    obtain ⟨hp, hrest⟩ := List.nodup_cons.1 h
    rw [List.reverse_cons, List.lookup_append, ih hrest, List.lookup_cons, List.lookup_cons]
    by_cases ha : a = p.1
    · -- a key that stands first stands nowhere else
      have hnone : pairs.lookup a = none := by
        rw [List.lookup_eq_none_iff]
        intro q hq
        have hne : p.1 ≠ q.1 := fun heq => hp (heq ▸ List.mem_map_of_mem hq)
        simpa [ha] using hne
      simp [hnone]
    · simp [beq_eq_false_iff_ne.2 ha]

theorem lookup_zip {columns : List Column} {values : List Value}
    (h : values.length = columns.length) (name : String) :
    ((columns.map Column.name).zip values).lookup name =
      (columns.findIdx? fun c => c.name == name).bind fun i => values[i]? := by
  induction columns generalizing values with
  | nil => rfl
  | cons c columns ih =>
    obtain ⟨v, values, rfl⟩ := List.exists_cons_of_length_eq_add_one h
    rw [List.map_cons, List.zip_cons_cons, List.lookup_cons, List.findIdx?_cons,
      ih (by simpa using h)]
    by_cases hname : c.name = name
    · simp [hname]
    · rw [beq_eq_false_iff_ne.2 (Ne.symm hname), beq_eq_false_iff_ne.2 hname]
      rw [if_neg Bool.false_ne_true, Option.bind_map]
      rfl

theorem lookup_toPairs {r : Record} (hs : r.schema.columnNames.Nodup) (name : String) :
    r.toPairs.reverse.lookup name = r.get? name := by
  have hwidth : r.schema.columnNames.length ≤ r.values.length := by
    simp [Schema.columnNames, r.length_values]
  rw [lookup_reverse (by rwa [toPairs, List.map_fst_zip hwidth])]
  exact lookup_zip r.length_values name

/-- A row gives a record exactly if it has a value for each column, each of which its column takes.
The record then has what they are taken as, place by place and name by name, and comes back from its
own values. A row of another width is refused for that, and any other for the first value that its
column does not take. -/
theorem ofRow_exact {s : Schema} (hs : s.columnNames.Nodup) (row : Row) :
    ((∃ r, Record.ofRow s row = .ok r) ↔
      List.Forall₂ (fun c v => ∃ w, c.Takes v w) s.columns row) ∧
    (∀ r, Record.ofRow s row = .ok r →
      r.schema = s ∧ List.Forall₂ (fun p w => p.1.Takes p.2 w) (s.columns.zip row) r.values ∧
      (∀ (i : Nat) (c : Column), s.columns[i]? = some c → r.get? c.name = r.values[i]?) ∧
      (∀ name, r.toPairs.reverse.lookup name = r.get? name) ∧
      Record.ofRow s r.values = .ok r) ∧
    ∀ e, Record.ofRow s row = .error e ↔
      row.length ≠ s.columns.length ∧
          e = .conversion (.rowWidth s.table row.length s.columns.length) ∨
        row.length = s.columns.length ∧ ∃ (i : Nat) (c : Column) (v : Value),
          s.columns[i]? = some c ∧ row[i]? = some v ∧ c.Rejects s.table v e ∧
          ∀ j < i, ∀ (c' : Column) (v' : Value), s.columns[j]? = some c' → row[j]? = some v' →
            ∃ w, c'.Takes v' w := by
  refine ⟨⟨?_, ?_⟩, fun r hr => ?_, fun e => ?_⟩
  · rintro ⟨r, hr⟩
    obtain ⟨hrow, -, htaken⟩ := ofRow_inv hs hr
    refine List.forall₂_iff_zip.2 ⟨hrow.symm, fun {c v} hp => ?_⟩
    obtain ⟨w, hw⟩ := ok_of_mapM htaken hp
    exact ⟨w, Column.take_eq_ok.1 hw⟩
  · intro h
    cases htaken : Column.takeAll s.table s.columns row with
    | ok values =>
      obtain ⟨r, hr, -⟩ := ofRow_of_takeAll hs h.length_eq.symm htaken
      exact ⟨r, hr⟩
    | error e =>
      obtain ⟨⟨c, v⟩, hp, herror⟩ := mapM_eq_error htaken
      obtain ⟨w, hw⟩ := (List.forall₂_iff_zip.1 h).2 hp
      cases herror.symm.trans (Column.take_eq_ok.2 hw)
  · obtain ⟨hrow, rfl, htaken⟩ := ofRow_inv hs hr
    refine ⟨rfl, Column.takeAll_eq_ok.1 htaken, fun i c => get_of_getElem? hs,
      lookup_toPairs hs, ?_⟩
    have hholds := Column.holds_of_takeAll hrow htaken
    obtain ⟨back, hback, hschema, hvalues⟩ :=
      ofRow_of_takeAll hs r.length_values (Column.takeAll_of_holds hholds)
    rw [hback, eq_of_values hschema hvalues]
  · by_cases hrow : row.length = s.columns.length
    · rw [ofRow_eq_error hs hrow, Column.takeAll_eq_error]
      simp [hrow]
    · rw [Record.ofRow, if_neg hrow]
      simp [hrow, eq_comm]

end Record

namespace Sample

def ferry : Schema where
  table := "ferry"
  columns := [
    { name := "full", type := .primaryKey .plainBoolean false, nullable := false },
    { name := "leaves", type := .plainDatetime, nullable := false },
    { name := "pier", type := .plainInteger }]

def crossing : Row := [.integer 1, .text "2024-02-29 06:30:00.25", .null]

def cancelled : Row := [.text "f", .null, .text "3"]

theorem ferry_read :
    ferry.columnNames.Nodup ∧
    (∃ r, Record.ofRow ferry crossing = .ok r ∧ r.values[0]? = some (.boolean true) ∧
      Record.ofRow ferry r.values = .ok r) ∧
    Record.ofRow ferry cancelled = .error (.validation (.notNullable "ferry" "leaves")) := by
  have hs : ferry.columnNames.Nodup := by decide
  have htrue : (ColumnType.primaryKey .plainBoolean false).coerce (.integer 1) =
      .ok (.boolean true) := rfl
  refine ⟨hs, ?_, ?_⟩
  · obtain ⟨htaken, hread, -⟩ := Record.ofRow_exact hs crossing
    obtain ⟨r, hr⟩ := htaken.2 <|
      .cons ⟨_, htrue, .inr rfl⟩ <| .cons ⟨_, rfl, .inr (by decide +kernel)⟩ <|
        .cons ⟨.null, rfl, .inl ⟨rfl, rfl⟩⟩ .nil
    obtain ⟨-, hvalues, -, -, hback⟩ := hread r hr
    have hfull : r.values[0]? = some (.boolean true) := by
      generalize r.values = values at hvalues
      cases hvalues with
      | cons hfirst _ =>
        cases htrue.symm.trans hfirst.1
        rfl
    exact ⟨r, hr, hfull, hback⟩
  · obtain ⟨-, -, hrefused⟩ := Record.ofRow_exact hs cancelled
    refine (hrefused _).2 (.inr ⟨rfl, 1, _, _, rfl, rfl, .denied rfl (.notNullable rfl rfl), ?_⟩)
    intro j hj c v hc hv
    obtain rfl := Nat.lt_one_iff.1 hj
    cases hc
    cases hv
    exact ⟨.boolean false, by decide +kernel, .inr rfl⟩

end Sample

end RecordMapper
