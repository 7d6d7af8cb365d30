import RecordMapper.Proofs.Catalog.Defaults

namespace RecordMapper

namespace Text

theorem eq_append_of_splitFirst {separator cs front back : List Char}
    (h : splitFirst? separator cs = some (front, back)) : cs = front ++ (separator ++ back) := by
  induction cs generalizing front with
  | nil =>
    rw [splitFirst?] at h
    obtain ⟨rest, hrest, heq⟩ := Option.map_eq_some_iff.1 h
    obtain ⟨rfl, rfl⟩ := Prod.mk.inj heq
    simpa using eq_append_of_after hrest
  | cons c cs ih =>
    rw [splitFirst?] at h
    split at h
    case h_1 rest hrest =>
      obtain ⟨rfl, rfl⟩ := Prod.mk.inj (Option.some.inj h)
      simpa using eq_append_of_after hrest
    case h_2 =>
      obtain ⟨r, hr, heq⟩ := Option.map_eq_some_iff.1 h
      obtain ⟨rfl, rfl⟩ := Prod.mk.inj heq
      rw [List.cons_append, ← ih hr]

theorem mem_trimEnd {c : Char} {cs : List Char} (hc : isBlank c = false) (h : c ∈ cs) :
    c ∈ trimEnd cs := by
  obtain ⟨blanks, hblanks, hcut⟩ := exists_trimEnd cs
  rw [hcut] at h
  rcases List.mem_append.1 h with h | h
  · exact h
  · exact absurd (hblanks c h) (hc ▸ Bool.false_ne_true)

end Text

open Text

namespace Catalog

def beginsName (c : Char) : Bool :=
  !(isBlank c || c.isDigit || c == '+' || c == '-' || c == '\'' || c == ':')

structure FunctionName (name : List Char) : Prop where
  begins : ∃ c ∈ name.head?, beginsName c = true
  colons : ∀ front back, name = front ++ ':' :: back → '"' ∈ front

/-- The call of a function: its name and, in parentheses, whatever it is given. -/
inductive Calls : List Char → Prop
  | call {name : List Char} (arguments : List Char) : FunctionName name →
      Calls (name ++ '(' :: (arguments ++ [')']))

/-- How a text shows that it is no literal: by its first character, and by one that no word of a
boolean has. -/
structure Foreign (cs : List Char) : Prop where
  begins : ∃ c ∈ cs.head?, beginsName c = true
  holds : '(' ∈ cs ∨ '"' ∈ cs

theorem beginsName_eq_true {c : Char} (h : beginsName c = true) :
    isBlank c = false ∧ c.isDigit = false ∧ c ≠ '+' ∧ c ≠ '-' ∧ c ≠ '\'' ∧ c ≠ ':' := by
  simpa [beginsName, and_assoc] using h

theorem FunctionName.foreign {name : List Char} (hname : FunctionName name) (rest : List Char) :
    Foreign (name ++ '(' :: rest) := by
  obtain ⟨c, hc, hbegins⟩ := hname.begins
  refine ⟨⟨c, ?_, hbegins⟩, .inl (List.mem_append_right _ (List.mem_cons_self ..))⟩
  rw [List.head?_append, hc, Option.some_or]
  exact Option.mem_some_self c

theorem FunctionName.foreign_front {name rest front back : List Char} (hname : FunctionName name)
    (h : name ++ '(' :: rest = front ++ ':' :: back) : Foreign front := by
  obtain ⟨c, hc, hbegins⟩ := hname.begins
  rcases List.append_eq_append_iff.1 h with ⟨more, rfl, hmore⟩ | ⟨more, rfl, hmore⟩
  · -- the colon stands behind the opening parenthesis
    cases more with
    | nil => cases hmore
    | cons p more =>
      obtain ⟨rfl, -⟩ := List.cons.inj hmore
      exact hname.foreign more
  · cases more with
    | nil => cases hmore
    | cons p more =>
      obtain ⟨rfl, -⟩ := List.cons.inj hmore
      have hquote := hname.colons front more rfl
      refine ⟨⟨c, ?_, hbegins⟩, .inr hquote⟩
      obtain ⟨f, fs, rfl⟩ := List.exists_cons_of_ne_nil (List.ne_nil_of_mem hquote)
      exact hc

theorem Foreign.trim {cs : List Char} (h : Foreign cs) : Foreign (Text.trim cs) := by
  obtain ⟨c, hc, hbegins⟩ := h.begins
  obtain ⟨rest, rfl⟩ := List.head?_eq_some_iff.1 hc
  have hblank := (beginsName_eq_true hbegins).1
  have hkept : ∀ x, isBlank x = false → x ∈ c :: rest → x ∈ c :: trimEnd rest := fun x hx hmem =>
    (List.mem_cons.1 hmem).elim (fun heq => heq ▸ List.mem_cons_self ..)
      fun hmem => List.mem_cons_of_mem c (mem_trimEnd hx hmem)
  rw [trim_cons hblank]
  exact ⟨⟨c, rfl, hbegins⟩, h.holds.imp (hkept _ (by decide)) (hkept _ (by decide))⟩

theorem splitDefault_call {cs raw : List Char} (hcs : Calls cs) (h : Reports cs raw) :
    ∃ text, splitDefault raw = (text, false) ∧ Foreign text := by
  cases hcs with
  | @call name arguments hname =>
    obtain ⟨c, hc, hbegins⟩ := hname.begins
    have hfirst : (name ++ '(' :: (arguments ++ [')'])).head? = some c := by
      rw [List.head?_append, hc, Option.some_or]
    have hlast : (name ++ '(' :: (arguments ++ [')'])).getLast? = some ')' := by
      rw [← List.cons_append, ← List.append_assoc, List.getLast?_concat]
    obtain ⟨tail, -, htrim⟩ := trim_of_reports h (by simp)
      (fun x hx => by
        obtain rfl : c = x := Option.some.inj (hfirst.symm.trans hx)
        exact (beginsName_eq_true hbegins).1)
      (fun x hx => by
        obtain rfl : ')' = x := Option.some.inj (hlast.symm.trans hx)
        rfl)
    have hcall : Text.trim raw = name ++ '(' :: (arguments ++ ')' :: tail) := by
      simpa using htrim
    have hunquoted : readQuoted? '\'' (Text.trim raw) = none := by
      obtain ⟨rest, hrest⟩ := List.head?_eq_some_iff.1 hfirst
      rw [htrim, hrest, List.cons_append]
      exact if_neg (beginsName_eq_true hbegins).2.2.2.2.1
    rw [splitDefault]
    simp only [hunquoted]
    split
    case h_1 front back hsplit =>
      have hfront := hname.foreign_front (hcall.symm.trans (eq_append_of_splitFirst hsplit))
      exact ⟨_, rfl, hfront.trim⟩
    case h_2 => exact ⟨_, rfl, hcall ▸ hname.foreign _⟩

variable {text : List Char}

theorem Foreign.readBoolean (h : Foreign text) : readBooleanDefault? text = none := by
  have hword : ∀ word : String, '(' ∉ word.toList → '"' ∉ word.toList →
      String.ofList (text.map Char.toLower) ≠ word := by
    rintro _ hparen hquote rfl
    rw [String.toList_ofList] at hparen hquote
    rcases h.holds with hmem | hmem
    · exact hparen (List.mem_map_of_mem hmem)
    · exact hquote (List.mem_map_of_mem hmem)
  rw [readBooleanDefault?, if_neg, if_neg]
  · simp only [not_or]
    refine ⟨?_, ?_, ?_⟩ <;> exact hword _ (by decide) (by decide)
  · simp only [not_or]
    refine ⟨?_, ?_, ?_⟩ <;> exact hword _ (by decide) (by decide)

theorem Foreign.readInt64 (h : Foreign text) : Numeral.readInt64? text = none := by
  obtain ⟨c, hc, hbegins⟩ := h.begins
  obtain ⟨rest, rfl⟩ := List.head?_eq_some_iff.1 hc
  obtain ⟨-, hdigit, hplus, hminus, -, -⟩ := beginsName_eq_true hbegins
  have hread : Numeral.readNat? (c :: rest) = none := by
    simp [Numeral.readNat?, hdigit]
  have hint : Numeral.readInt? (c :: rest) = none := by
    rw [Numeral.readInt?.eq_def]
    split
    · simp_all
    · simp_all
    · rw [hread]
      rfl
  rw [Numeral.readInt64?, Numeral.readSigned?, hint, Option.filter_none, Option.map_none]

theorem Foreign.readTimestamp (h : Foreign text) : Timestamp.read? text = none := by
  obtain ⟨c, hc, hbegins⟩ := h.begins
  obtain ⟨rest, rfl⟩ := List.head?_eq_some_iff.1 hc
  obtain ⟨hblank, hdigit, hplus, hminus, -, -⟩ := beginsName_eq_true hbegins
  have hdigits : Timestamp.readDigits? 4 (c :: trimEnd rest) = none := by
    simp [Timestamp.readDigits?, Timestamp.takeDigits, hdigit]
  have hyear : Timestamp.readYear? (c :: trimEnd rest) = none := by
    rw [Timestamp.readYear?, trimStart_cons, hblank, if_neg Bool.false_ne_true]
    split
    · simp_all
    · simp_all
    · rw [hdigits, Option.map_none]
  have hdate : Timestamp.readDate? (c :: trimEnd rest) = none := by
    rw [Timestamp.readDate?, hyear]
    rfl
  rw [Timestamp.read?, trim_cons hblank, Timestamp.readSpaced?, Timestamp.readJoined?, hdate]
  rfl

theorem decodeDefault_foreign (undecodable : Error) (h : Foreign text) (t : ColumnType) :
    decodeDefault undecodable text false t =
      if t.admits = .timestamp then .ok none else .error undecodable := by
  rw [decodeDefault_eq]
  cases t.admits with
  | boolean => simp [h.readBoolean]
  | integer => simp [h.readInt64]
  | real => rfl
  | text => rfl
  | timestamp => simp [h.readTimestamp]

end Catalog

open Catalog

/-- A default that is a function's call is no value where timestamps are expected, and an error
everywhere else. -/
theorem ColumnInfo.defaultValue_call {info : ColumnInfo} {raw : String} {cs : List Char}
    (hraw : info.default = some raw) (hcs : Calls cs) (hreports : Reports cs raw.toList)
    (t : ColumnType) :
    info.defaultValue t = if t.admits = .timestamp then .ok none
      else .error (.conversion (.badDefault raw info.name)) := by
  obtain ⟨text, hsplit, hforeign⟩ := splitDefault_call hcs hreports
  simp only [defaultValue, hraw, hsplit]
  exact decodeDefault_foreign _ hforeign t

namespace Sample

def serial : ColumnInfo where
  name := "id"
  default := some "nextval('users_id_seq'::regclass)"
  nullable := false
  dataType := "integer"

theorem calls_serial : Calls "nextval('users_id_seq'::regclass)".toList := by
  have hname : FunctionName "nextval".toList := by
    refine ⟨⟨'n', rfl, rfl⟩, fun front back h => ?_⟩
    have hcolon : ':' ∈ "nextval".toList := h ▸ List.mem_append_right _ (List.mem_cons_self ..)
    exact absurd hcolon (by decide)
  exact .call "'users_id_seq'::regclass".toList hname

theorem reports_serial : Reports "nextval('users_id_seq'::regclass)".toList
    "nextval('users_id_seq'::regclass)".toList :=
  ⟨[], [], [], nofun, nofun, .nothing, by simp⟩

theorem serial_called :
    serial.default = some "nextval('users_id_seq'::regclass)" ∧
    Calls "nextval('users_id_seq'::regclass)".toList ∧
    Reports "nextval('users_id_seq'::regclass)".toList
      "nextval('users_id_seq'::regclass)".toList ∧
    serial.defaultValue .plainDatetime = .ok none ∧
    serial.defaultValue (.primaryKey .plainString false) =
      .error (.conversion (.badDefault "nextval('users_id_seq'::regclass)" "id")) := by
  have hserial := @ColumnInfo.defaultValue_call serial _ _ rfl calls_serial reports_serial
  exact ⟨rfl, calls_serial, reports_serial, hserial .plainDatetime,
    hserial (.primaryKey .plainString false)⟩

/-- The default of such a key is not told from an unreadable one. -/
theorem serial_refused :
    serial.default = some "nextval('users_id_seq'::regclass)" ∧
    Calls "nextval('users_id_seq'::regclass)".toList ∧
    serial.defaultValue (.primaryKey .plainInteger true) =
      .error (.conversion (.badDefault "nextval('users_id_seq'::regclass)" "id")) :=
  ⟨rfl, calls_serial, rfl⟩

end Sample

end RecordMapper
