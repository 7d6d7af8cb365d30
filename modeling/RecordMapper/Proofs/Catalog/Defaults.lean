import RecordMapper.Catalog
import RecordMapper.Proofs.Literals
import RecordMapper.Proofs.Text.Splitting

namespace RecordMapper

namespace Text

def AllBlank (cs : List Char) : Prop := ∀ c ∈ cs, isBlank c = true

instance (cs : List Char) : Decidable (AllBlank cs) :=
  List.decidableBAll (fun c => isBlank c = true) cs

theorem trimEnd_append_cons (front back : List Char) {c : Char} (hc : isBlank c = false) :
    trimEnd (front ++ c :: back) = front ++ c :: trimEnd back := by
  simp only [trimEnd, List.reverse_append, List.reverse_cons, List.append_assoc,
    List.singleton_append, List.dropWhile_append]
  cases h : back.reverse.dropWhile isBlank with
  | nil => simp [hc]
  | cons d ds => simp

theorem trim_cons {c : Char} (hc : isBlank c = false) (cs : List Char) :
    trim (c :: cs) = c :: trimEnd cs := by
  rw [trim, trimStart_cons, hc, if_neg Bool.false_ne_true]
  exact trimEnd_append_cons [] cs hc

theorem exists_trimEnd (cs : List Char) :
    ∃ blanks, AllBlank blanks ∧ cs = trimEnd cs ++ blanks := by
  refine ⟨(cs.reverse.takeWhile isBlank).reverse, fun c hc => ?_, ?_⟩
  · have hall := List.all_takeWhile (p := isBlank) (l := cs.reverse)
    exact List.all_eq_true.1 hall c (List.mem_reverse.1 hc)
  · rw [trimEnd, ← List.reverse_append, List.takeWhile_append_dropWhile, List.reverse_reverse]

theorem unquote_double_eq_none (quote : Char) (cs : List Char) :
    unquote? quote (double quote cs) = none := by
  induction cs with
  | nil => rfl
  | cons c cs ih =>
    by_cases hc : c = quote
    · simp [double, hc, unquote_quote_quote, ih]
    · simp [double, hc, unquote_cons_ne, ih]

theorem unquote_append {quote : Char} {cs more : List Char} (h : unquote? quote cs ≠ none)
    (hmore : more.head? ≠ some quote) : unquote? quote (cs ++ more) ≠ none := by
  obtain ⟨⟨body, rest⟩, hread⟩ := Option.ne_none_iff_exists'.1 h
  obtain ⟨rfl, hrest⟩ := eq_double_of_unquote hread
  have hjoin : (rest ++ more).head? ≠ some quote := by
    cases rest with
    | nil => exact hmore
    | cons c rest => exact hrest
  rw [List.append_assoc, List.cons_append, unquote_double _ _ _ hjoin]
  exact Option.some_ne_none _

end Text

open Text

namespace Catalog

inductive Ending : List Char → Prop
  | nothing : Ending []
  | cast (type : List Char) : Ending (':' :: ':' :: type)

/-- Whether a database reports a default as the text, with white space around it and a cast behind
it or none. -/
def Reports (cs raw : List Char) : Prop :=
  ∃ lead trail ending, AllBlank lead ∧ AllBlank trail ∧ Ending ending ∧
    raw = lead ++ (cs ++ (trail ++ ending))

inductive Behind : List Char → Prop
  | nothing : Behind []
  | cast {trail : List Char} (type : List Char) : AllBlank trail →
      Behind (trail ++ (':' :: ':' :: type))

theorem trim_of_reports {cs raw : List Char} (h : Reports cs raw) (hne : cs ≠ [])
    (hfirst : ∀ c ∈ cs.head?, isBlank c = false) (hlast : ∀ c ∈ cs.getLast?, isBlank c = false) :
    ∃ tail, Behind tail ∧ trim raw = cs ++ tail := by
  obtain ⟨lead, trail, ending, hlead, htrail, hending, rfl⟩ := h
  have hstart : ∀ rest, trimStart (lead ++ (cs ++ rest)) = cs ++ rest := fun rest => by
    rw [trimStart_append lead _ hlead]
    obtain ⟨c, cs, rfl⟩ := List.exists_cons_of_ne_nil hne
    exact Timestamp.trimStart_eq_self hfirst
  rw [trim, hstart]
  cases hending with
  | nothing =>
    refine ⟨[], .nothing, ?_⟩
    rw [List.append_nil, trimEnd_append cs trail htrail, Timestamp.trimEnd_eq_self hlast,
      List.append_nil]
  | cast type =>
    have hcut := trimEnd_append_cons (cs ++ (trail ++ [':'])) type (c := ':') rfl
    refine ⟨_, .cast (trimEnd type) htrail, ?_⟩
    simpa using hcut

theorem Behind.head_ne {tail : List Char} (h : Behind tail) : tail.head? ≠ some '\'' := by
  cases h with
  | nothing => nofun
  | @cast trail type htrail =>
    cases trail with
    | nil => simp
    | cons b trail =>
      have hb := htrail b (List.mem_cons_self ..)
      rintro heq
      obtain rfl : b = '\'' := by simpa using heq
      contradiction

theorem splitDefault_quoted {body raw : List Char} (h : Reports (quoted '\'' body) raw) :
    splitDefault raw = (body, true) := by
  have hfirst : ∀ c ∈ (quoted '\'' body).head?, isBlank c = false := fun c hc => by
    cases hc
    rfl
  have hlast : ∀ c ∈ (quoted '\'' body).getLast?, isBlank c = false := fun c hc => by
    rw [quoted, ← List.cons_append, List.getLast?_concat] at hc
    cases hc
    rfl
  obtain ⟨tail, htail, htrim⟩ := trim_of_reports h (List.cons_ne_nil _ _) hfirst hlast
  rw [splitDefault, htrim]
  simp only [readQuoted_quoted '\'' body tail htail.head_ne]

structure Plain (cs : List Char) : Prop where
  ne_nil : cs ≠ []
  inside : ∀ c ∈ cs, isBlank c = false ∧ c ≠ ':' ∧ c ≠ '\''

theorem Plain.trim {cs : List Char} (h : Plain cs) {trail : List Char} (htrail : AllBlank trail) :
    Text.trim (cs ++ trail) = cs := by
  have hlast : ∀ c ∈ cs.getLast?, isBlank c = false := fun c hc =>
    (h.inside c (List.mem_of_getLast? hc)).1
  obtain ⟨c, cs, rfl⟩ := List.exists_cons_of_ne_nil h.ne_nil
  have hstart : trimStart (c :: cs ++ trail) = c :: cs ++ trail :=
    Timestamp.trimStart_eq_self fun x hx => by
      cases hx
      exact (h.inside _ (List.mem_cons_self ..)).1
  rw [Text.trim, hstart, trimEnd_append _ _ htrail, Timestamp.trimEnd_eq_self hlast]

theorem Plain.readQuoted {cs : List Char} (h : Plain cs) (rest : List Char) :
    readQuoted? '\'' (cs ++ rest) = none := by
  obtain ⟨c, cs, rfl⟩ := List.exists_cons_of_ne_nil h.ne_nil
  exact if_neg (h.inside c (List.mem_cons_self ..)).2.2

theorem splitDefault_plain {cs raw : List Char} (hcs : Plain cs) (h : Reports cs raw) :
    splitDefault raw = (cs, false) := by
  obtain ⟨tail, htail, htrim⟩ := trim_of_reports h hcs.ne_nil
    (fun c hc => (hcs.inside c (List.mem_of_mem_head? hc)).1)
    (fun c hc => (hcs.inside c (List.mem_of_getLast? hc)).1)
  have hcolon : ':' ∉ cs := fun hmem => (hcs.inside _ hmem).2.1 rfl
  rw [splitDefault, htrim]
  simp only [hcs.readQuoted]
  cases htail with
  | nothing => simp only [List.append_nil, splitFirst_of_not_mem [':'] hcolon]
  | @cast trail type htrail =>
    have hfront : ':' ∉ cs ++ trail := fun hmem => by
      rcases List.mem_append.1 hmem with hmem | hmem
      · exact hcolon hmem
      · exact absurd (htrail _ hmem) (by decide)
    have hsplit := splitFirst_separator ':' [':'] type hfront
    simp only [List.append_assoc, List.cons_append, List.nil_append] at hsplit
    simp only [hsplit, hcs.trim htrail]

theorem decodeDefault_eq (undecodable : Error) (text : List Char) (isQuoted : Bool)
    (t : ColumnType) :
    decodeDefault undecodable text isQuoted t = match t.admits with
      | .boolean =>
        (readBooleanDefault? text).elim (.error undecodable) fun b => .ok (some (.boolean b))
      | .integer =>
        (Numeral.readInt64? text).elim (.error undecodable) fun i => .ok (some (.integer i))
      | .real => .error undecodable
      | .text => if isQuoted then .ok (some (.text (String.ofList text))) else .error undecodable
      | .timestamp => .ok ((Timestamp.read? text).map .timestamp) := by
  induction t with
  | primaryKey inner autoincrement ih => exact ih
  | boolean default =>
    simp only [decodeDefault, ColumnType.admits]
    cases readBooleanDefault? text <;> rfl
  | integer default =>
    simp only [decodeDefault, ColumnType.admits]
    cases Numeral.readInt64? text <;> rfl
  | string length default => rfl
  | datetime default => rfl

variable {t : ColumnType} {v : Value} {undecodable : Error}

theorem decodeDefault_boolean (h : t.admits = .boolean) {text : List Char} {b : Bool}
    (hread : readBooleanDefault? text = some b) (isQuoted : Bool) :
    decodeDefault undecodable text isQuoted t = .ok (some (.boolean b)) := by
  rw [decodeDefault_eq, h]
  simp only [hread, Option.elim_some]

theorem decodeDefault_integer (h : t.admits = .integer) (i : Int64) (isQuoted : Bool) :
    decodeDefault undecodable (Numeral.writeInt i.toInt) isQuoted t =
      .ok (some (.integer i)) := by
  rw [decodeDefault_eq, h]
  simp only [Numeral.readInt64_writeInt, Option.elim_some]

theorem readBooleanDefault_display (b : Bool) :
    readBooleanDefault? (Value.boolean b).display.toList = some b := by
  cases b <;> decide +kernel

theorem decodeDefault_display (h : t.validate v = true) :
    decodeDefault undecodable v.display.toList true t = .ok (some v.kept) := by
  cases ColumnType.suited_of_validate h with
  | boolean b hadmits => exact decodeDefault_boolean hadmits (readBooleanDefault_display b) true
  | integer i hadmits =>
    rw [Value.display, String.toList_ofList]
    exact decodeDefault_integer hadmits i true
  | text s hadmits =>
    rw [decodeDefault_eq, hadmits]
    simp [Value.display, Value.kept]
  | timestamp m hadmits =>
    rw [decodeDefault_eq, hadmits]
    simp [Value.display, Value.kept, Timestamp.read_write]

theorem plain_writeInt (i : Int) : Plain (Numeral.writeInt i) := by
  have hdigits : ∀ n, ∀ c ∈ Numeral.digits n, isBlank c = false ∧ c ≠ ':' ∧ c ≠ '\'' := by
    intro n c hc
    have hdigit := Numeral.isDigit_of_mem_digits hc
    refine ⟨Timestamp.isBlank_of_isDigit hdigit, ?_, ?_⟩
    · rintro rfl
      contradiction
    · rintro rfl
      contradiction
  cases i with
  | ofNat n => exact ⟨Numeral.digits_ne_nil n, hdigits n⟩
  | negSucc n =>
    refine ⟨List.cons_ne_nil _ _, fun c hc => ?_⟩
    rcases List.mem_cons.1 hc with rfl | hc
    · decide
    · exact hdigits (n + 1) c hc

theorem toLower_of_isBlank {c : Char} (h : isBlank c = true) : c.toLower = c := by
  refine dif_neg fun hupper => ?_
  have hrange : 65 ≤ c.toNat ∧ c.toNat ≤ 90 := by
    simpa [UInt32.le_iff_toNat_le] using hupper
  rw [Sql.isBlank_eq_false (by omega) (by omega)] at h
  contradiction

theorem plain_word {b : Bool} {cs : List Char}
    (h : cs.map Char.toLower = (Value.boolean b).display.toList) : Plain cs := by
  have hword : ∀ c ∈ cs, c.toLower ∈ "true".toList ∨ c.toLower ∈ "false".toList := by
    intro c hc
    have hmem : c.toLower ∈ (Value.boolean b).display.toList := h ▸ List.mem_map_of_mem hc
    cases b with
    | true => exact .inl hmem
    | false => exact .inr hmem
  refine ⟨?_, fun c hc => ⟨?_, ?_, ?_⟩⟩
  · rintro rfl
    cases b <;> exact absurd h (by decide)
  · -- what is blank is no capital letter and would be a letter of the word itself
    rw [← Bool.not_eq_true]
    intro hblank
    have hletter := toLower_of_isBlank hblank ▸ hword c hc
    simp only [String.reduceToList, List.mem_cons, List.not_mem_nil, or_false] at hletter
    rcases hletter with (rfl | rfl | rfl | rfl) | rfl | rfl | rfl | rfl | rfl <;>
      exact absurd hblank (by decide)
  · rintro rfl
    exact absurd (hword _ hc) (by decide)
  · rintro rfl
    exact absurd (hword _ hc) (by decide)

/-- How a value can be spelled: as the literal of a dialect, between quotes, or, if it is a boolean,
as a word in small or capital letters. -/
inductive Spelling (d : Dialect) : Value → List Char → Prop
  | literal (v : Value) : Spelling d v (d.literal v).toList
  | quoted (v : Value) : Spelling d v (quoteText v.display).toList
  | word {b : Bool} {cs : List Char} :
      cs.map Char.toLower = (Value.boolean b).display.toList → Spelling d (.boolean b) cs

inductive Decodes (t : ColumnType) (v : Value) : List Char → Prop
  | quoted {body : List Char} :
      (∀ undecodable, decodeDefault undecodable body true t = .ok (some v.kept)) →
      Decodes t v (Text.quoted '\'' body)
  | plain {cs : List Char} : Plain cs →
      (∀ undecodable, decodeDefault undecodable cs false t = .ok (some v.kept)) → Decodes t v cs

theorem decodes_quoted (h : t.validate v = true) : Decodes t v (quoteText v.display).toList := by
  rw [toList_quoteText]
  exact .quoted fun _ => decodeDefault_display h

theorem decodes_word {b : Bool} {cs : List Char} (h : t.admits = .boolean)
    (hcs : cs.map Char.toLower = (Value.boolean b).display.toList) : Decodes t (.boolean b) cs := by
  have hread : readBooleanDefault? cs = some b := by
    have hdisplay := readBooleanDefault_display b
    have hlower : (Value.boolean b).display.toList.map Char.toLower =
        (Value.boolean b).display.toList := by cases b <;> decide +kernel
    rw [readBooleanDefault?, hlower] at hdisplay
    rwa [readBooleanDefault?, hcs]
  exact .plain (plain_word hcs) fun _ => decodeDefault_boolean h hread false

theorem decodes_boolean (d : Dialect) {b : Bool} (h : t.admits = .boolean) :
    Decodes t (.boolean b) (d.literal (.boolean b)).toList := by
  cases d with
  | postgres =>
    have hquoted : (Dialect.postgres.literal (.boolean b)).toList =
        Text.quoted '\'' [if b then 't' else 'f'] := by cases b <;> decide +kernel
    have hread : readBooleanDefault? [if b then 't' else 'f'] = some b := by
      cases b <;> decide +kernel
    rw [hquoted]
    exact .quoted fun _ => decodeDefault_boolean h hread true
  | sqlite =>
    have hnumber : (Dialect.sqlite.literal (.boolean b)).toList = [if b then '1' else '0'] := by
      cases b <;> decide +kernel
    have hread : readBooleanDefault? [if b then '1' else '0'] = some b := by
      cases b <;> decide +kernel
    have hplain : Plain [if b then '1' else '0'] := by
      cases b <;> exact ⟨List.cons_ne_nil _ _, List.forall_mem_singleton.2 (by decide)⟩
    rw [hnumber]
    exact .plain hplain fun _ => decodeDefault_boolean h hread false

theorem decodes_literal (d : Dialect) (h : t.validate v = true) :
    Decodes t v (d.literal v).toList := by
  cases ColumnType.suited_of_validate h with
  | boolean b hadmits => exact decodes_boolean d hadmits
  | integer i hadmits =>
    have hnumber : (d.literal (.integer i)).toList = Numeral.writeInt i.toInt :=
      String.toList_ofList
    rw [hnumber]
    exact .plain (plain_writeInt _) fun _ => decodeDefault_integer hadmits i false
  | text s => exact decodes_quoted h
  | timestamp m => exact decodes_quoted h

theorem Spelling.decodes {d : Dialect} {cs : List Char} (h : Spelling d v cs)
    (hv : t.validate v = true) : Decodes t v cs := by
  cases h with
  | literal => exact decodes_literal d hv
  | quoted => exact decodes_quoted hv
  | word hcs => exact decodes_word (Option.some.inj (of_decide_eq_true hv)).symm hcs

theorem isQuoted_of_unclosed {lead : List Char} (hlead : AllBlank lead) (s : List Char) :
    (splitDefault (lead ++ '\'' :: double '\'' s)).2 = false := by
  have htrim : trim (lead ++ '\'' :: double '\'' s) = '\'' :: trimEnd (double '\'' s) := by
    rw [trim, trimStart_append lead _ hlead]
    exact trim_cons (by decide) _
  have hopen : readQuoted? '\'' ('\'' :: trimEnd (double '\'' s)) = none := by
    obtain ⟨blanks, hblanks, hcut⟩ := exists_trimEnd (double '\'' s)
    have hnext : blanks.head? ≠ some '\'' := fun hhead =>
      absurd (hblanks _ (List.mem_of_mem_head? hhead)) (by decide)
    rw [readQuoted?, if_pos rfl]
    refine Decidable.byContradiction fun hclosed => unquote_append hclosed hnext ?_
    rw [← hcut, unquote_double_eq_none]
  rw [splitDefault, htrim]
  simp only [hopen]
  split <;> rfl

end Catalog

open Catalog

/-- A default that spells a value of the column's type, with any cast behind it, is decoded to that
value. A text whose last quote is missing is no default of a column of texts. -/
theorem ColumnInfo.defaultValue_reported {info : ColumnInfo} {raw : String}
    (hraw : info.default = some raw) (t : ColumnType) (d : Dialect) :
    (∀ v cs, t.validate v = true → Spelling d v cs → Reports cs raw.toList →
      info.defaultValue t = .ok (some v.kept)) ∧
    (∀ lead s, t.admits = .text → AllBlank lead →
      raw.toList = lead ++ '\'' :: Text.double '\'' s →
      info.defaultValue t = .error (.conversion (.badDefault raw info.name))) := by
  have hsplit : ∀ {cs isQuoted}, splitDefault raw.toList = (cs, isQuoted) →
      info.defaultValue t =
        decodeDefault (.conversion (.badDefault raw info.name)) cs isQuoted t := by
    intro cs isQuoted h
    simp only [defaultValue, hraw, h]
  refine ⟨fun v cs hv hspelling hreports => ?_, fun lead s ht hlead hunclosed => ?_⟩
  · cases hspelling.decodes hv with
    | quoted hdecode => rw [hsplit (splitDefault_quoted hreports), hdecode]
    | plain hplain hdecode => rw [hsplit (splitDefault_plain hplain hreports), hdecode]
  · have hopen := isQuoted_of_unclosed hlead s
    rw [← hunclosed] at hopen
    have hplain : splitDefault raw.toList = ((splitDefault raw.toList).1, false) :=
      Prod.ext rfl hopen
    rw [hsplit hplain, decodeDefault_eq, ht]
    rfl

namespace Sample

def motto : ColumnInfo where
  name := "motto"
  default := some "\t'it''s :: ''odd'' ' ::character varying(9) "
  nullable := true
  dataType := "character varying"

def torn : ColumnInfo := { motto with default := some " 'it''s" }

theorem motto_reported :
    motto.default = some "\t'it''s :: ''odd'' ' ::character varying(9) " ∧
    torn.default = some " 'it''s" ∧
    ColumnType.plainString.validate (.text "it's :: 'odd' ") = true ∧
    motto.defaultValue (.primaryKey .plainString false) = .ok (some (.text "it's :: 'odd' ")) ∧
    torn.defaultValue .plainString = .error (.conversion (.badDefault " 'it''s" "motto")) := by
  have hmotto := @ColumnInfo.defaultValue_reported motto _ rfl
    (.primaryKey .plainString false) .postgres
  have htorn := @ColumnInfo.defaultValue_reported torn _ rfl .plainString .sqlite
  refine ⟨rfl, rfl, rfl, hmotto.1 _ _ rfl (.literal (.text "it's :: 'odd' ")) ?_,
    htorn.2 [' '] "it's".toList rfl (by decide) (by decide +kernel)⟩
  exact ⟨['\t'], [' '], _, by decide, by decide, .cast "character varying(9) ".toList,
    by decide +kernel⟩

def overdue : ColumnInfo where
  name := "at"
  default := some (Dialect.sqlite.literal (.timestamp straggler))
  nullable := true
  dataType := "TIMESTAMP"

theorem overdue_decoded :
    ColumnType.plainDatetime.validate (.timestamp straggler) = true ∧
    overdue.default = some "'2024-01-02 23:56:05.333333'" ∧
    overdue.defaultValue .plainDatetime = .ok (some (.timestamp stragglerShown)) ∧
    overdue.defaultValue .plainDatetime ≠ .ok (some (.timestamp straggler.toMicros)) := by
  decide +kernel

end Sample

end RecordMapper
