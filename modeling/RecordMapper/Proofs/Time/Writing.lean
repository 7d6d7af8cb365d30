import RecordMapper.Proofs.Sql.Spelling
import RecordMapper.Proofs.Time.Shown
import RecordMapper.Time.Reading

namespace RecordMapper.Timestamp

open Numeral Text

theorem takeDigits_append {width : Nat} {ds rest : List Char} (hds : ∀ c ∈ ds, c.isDigit = true)
    (hlength : ds.length ≤ width)
    (hrest : ds.length = width ∨ ∀ c ∈ rest.head?, c.isDigit = false) :
    takeDigits width (ds ++ rest) = (ds, rest) := by
  induction ds generalizing width with
  | nil =>
    cases width with
    | zero => rfl
    | succ width =>
      cases rest with
      | nil => rfl
      | cons c rest =>
        have hc : c.isDigit = false := by simpa using hrest
        simp [takeDigits, hc]
  | cons d ds ih =>
    cases width with
    | zero => simp at hlength
    | succ width =>
      have hd := hds d (List.mem_cons_self ..)
      have hread : takeDigits width (ds ++ rest) = (ds, rest) :=
        ih (fun c hc => hds c (List.mem_cons_of_mem d hc)) (by simpa using hlength)
          (by simpa using hrest)
      simp [takeDigits, hd, hread]

theorem readDigits_append {width : Nat} {ds rest : List Char} (hne : ds ≠ [])
    (hds : ∀ c ∈ ds, c.isDigit = true) (hlength : ds.length ≤ width)
    (hrest : ds.length = width ∨ ∀ c ∈ rest.head?, c.isDigit = false) :
    readDigits? width (ds ++ rest) = some (value ds, rest) := by
  rw [readDigits?, takeDigits_append hds hlength hrest]
  cases ds with
  | nil => contradiction
  | cons d ds => rfl

theorem isBlank_of_isDigit {c : Char} (h : c.isDigit = true) : isBlank c = false := by
  have := Sql.toNat_of_isDigit h
  exact Sql.isBlank_eq_false (by omega) (by omega)

theorem trimStart_eq_self {cs : List Char} (h : ∀ c ∈ cs.head?, isBlank c = false) :
    trimStart cs = cs := by
  cases cs with
  | nil => rfl
  | cons c cs => rw [trimStart_cons, h c rfl, if_neg Bool.false_ne_true]

theorem trimStart_digits {ds : List Char} (hne : ds ≠ []) (hds : ∀ c ∈ ds, c.isDigit = true)
    (rest : List Char) : trimStart (ds ++ rest) = ds ++ rest := by
  cases ds with
  | nil => contradiction
  | cons d ds =>
    refine trimStart_eq_self fun c hc => ?_
    cases hc
    exact isBlank_of_isDigit (hds d (List.mem_cons_self ..))

theorem length_padded_of_lt {width n : Nat} (hwidth : 0 < width) (h : n < Nat.pow 10 width) :
    (padded width n).length = width := by
  have := (Nat.length_toDigits_le_iff (b := 10) (by decide) hwidth).2 h
  rw [length_padded, digits]
  omega

theorem padded_ne_nil (width n : Nat) : padded width n ≠ [] := by
  simp [padded, digits_ne_nil]

theorem readNumber_padded {n : Nat} (h : n < 100) (rest : List Char) :
    readNumber? 2 (padded 2 n ++ rest) = some (n, rest) := by
  have hds : ∀ c ∈ padded 2 n, c.isDigit = true := fun c hc => isDigit_of_mem_padded hc
  have hlength : (padded 2 n).length = 2 := length_padded_of_lt (by decide) h
  rw [readNumber?, trimStart_digits (padded_ne_nil 2 n) hds,
    readDigits_append (padded_ne_nil 2 n) hds (by omega) (.inl hlength), value_padded]

theorem readDigits_year {limit n : Nat} (rest : List Char)
    (h : (padded 4 n).length ≤ limit) :
    readDigits? limit (padded 4 n ++ '-' :: rest) = some (n, '-' :: rest) := by
  have hstop : ∀ c ∈ ('-' :: rest).head?, c.isDigit = false := by
    intro c hc
    cases hc
    rfl
  rw [readDigits_append (padded_ne_nil 4 n) (fun c hc => isDigit_of_mem_padded hc) h (.inr hstop),
    value_padded]

theorem readYear_plain {n : Nat} (h : n < 10000) (rest : List Char) :
    readYear? (padded 4 n ++ '-' :: rest) = some ((n : Int), '-' :: rest) := by
  have hds : ∀ c ∈ padded 4 n, c.isDigit = true := fun c hc => isDigit_of_mem_padded hc
  have hread := readDigits_year rest (Nat.le_of_eq (length_padded_of_lt (by decide) h))
  rw [readYear?, trimStart_digits (padded_ne_nil 4 n) hds]
  cases hcs : padded 4 n with
  | nil => exact absurd hcs (padded_ne_nil 4 n)
  | cons c cs =>
    -- a digit is no sign
    have hc : c.isDigit = true := hds c (by simp [hcs])
    rw [hcs] at hread
    split
    · simp_all
    · simp_all
    · rw [hread]
      rfl

theorem readYear_writeYear (year : Int) (rest : List Char) :
    readYear? (writeYear year ++ '-' :: rest) = some (year, '-' :: rest) := by
  have hsigned : ∀ n, readDigits? (padded 4 n ++ '-' :: rest).length (padded 4 n ++ '-' :: rest) =
      some (n, '-' :: rest) := fun n => readDigits_year rest (by simp)
  rw [writeYear]
  split
  · rename_i h
    rw [readYear_plain (by omega) rest, Int.toNat_of_nonneg h.1]
  · rename_i h
    by_cases hneg : year < 0
    · rw [if_pos hneg, readYear?, List.cons_append, trimStart_cons]
      simp only [show isBlank '-' = false from rfl, Bool.false_eq_true, if_false, hsigned,
        Option.map_some]
      congr 2
      omega
    · rw [if_neg hneg, readYear?, List.cons_append, trimStart_cons]
      simp only [show isBlank '+' = false from rfl, Bool.false_eq_true, if_false, hsigned,
        Option.map_some]
      congr 2
      omega

theorem daysInMonth_le (year : Int) (month : Nat) : daysInMonth year month ≤ 31 := by
  simp only [daysInMonth]
  split
  · split <;> decide
  · split <;> decide

theorem readDate_writeDate (d : Date) (rest : List Char) :
    readDate? (writeDate d ++ rest) = some (d, rest) := by
  have hmonth : d.month < 100 := Nat.lt_of_le_of_lt d.month_le (by decide)
  have hday : d.day < 100 := by
    have h := d.day_le
    have hle := daysInMonth_le d.year d.month
    omega
  rw [readDate?, writeDate, List.append_assoc, List.cons_append, List.append_assoc,
    List.cons_append, readYear_writeYear]
  simp only [Option.bind_eq_bind, Option.bind_some, expect?, if_true, readNumber_padded hmonth,
    readNumber_padded hday, Date.of_fields]
  rfl

theorem readFraction_padded {micros : Nat} (h : micros < 1000000) :
    readFraction? ('.' :: padded 6 micros) = some (micros * 1000, []) := by
  have hlength : (padded 6 micros).length = 6 := length_padded_of_lt (by decide) h
  have htake : takeDigits 9 (padded 6 micros) = (padded 6 micros, []) := by
    have happend : takeDigits 9 (padded 6 micros ++ []) = (padded 6 micros, []) :=
      takeDigits_append (fun c hc => isDigit_of_mem_padded hc) (by omega) (.inr (by simp))
    simpa using happend
  have hvalue := value_padded 6 micros
  have hne := padded_ne_nil 6 micros
  rw [readFraction?, htake]
  generalize padded 6 micros = ds at hvalue hne hlength
  cases ds with
  | nil => contradiction
  | cons c cs => simp [hvalue, hlength]

theorem readTime_of_regular {t : Timestamp} (hregular : t.Regular) :
    readTime? t.date (writeClock t ++ '.' :: padded 6 (t.nanosecond % 1000000000 / 1000)) =
      some (t.toMicros, []) := by
  have hhour := t.hour_lt
  have hminute := t.minute_lt
  have hsecond := t.second_lt
  have hnano := t.nanosecond_lt
  have hclock : t.clockSecond < 100 := by
    simp only [clockSecond]
    omega
  have hmicros : t.nanosecond % 1000000000 / 1000 < 1000000 := by omega
  have hcut : of? t.date t.hour t.minute t.second (t.nanosecond / 1000 * 1000) =
      some t.toMicros := by
    have hcut := of_regular hregular.toMicros
    simpa only [toMicros_date, toMicros_hour, toMicros_minute, toMicros_second,
      toMicros_nanosecond] using hcut
  rw [readTime?, writeClock, List.append_assoc, List.cons_append, List.append_assoc,
    List.cons_append]
  simp only [Option.bind_eq_bind, Option.bind_some, expect?, if_true,
    readNumber_padded (show t.hour < 100 by omega),
    readNumber_padded (show t.minute < 100 by omega),
    readNumber_padded hclock, readFraction_padded hmicros]
  -- a leap second is written as the sixtieth and read as the rest of the second before
  by_cases h : 1000000000 ≤ t.nanosecond
  · have hnine := hregular h
    have hsixty : t.clockSecond = 60 := by
      simp only [clockSecond]
      omega
    have hparts : 1000000000 + t.nanosecond % 1000000000 / 1000 * 1000 =
        t.nanosecond / 1000 * 1000 := by omega
    rw [if_pos hsixty, hparts, ← hnine, hcut]
    rfl
  · have hplain : t.clockSecond = t.second := by
      simp only [clockSecond]
      omega
    have hparts : t.nanosecond % 1000000000 / 1000 * 1000 = t.nanosecond / 1000 * 1000 := by omega
    rw [if_neg (by omega), hplain, hparts, hcut]
    rfl

theorem readTime_write (t : Timestamp) :
    readTime? t.date (writeClock t ++ '.' :: padded 6 (t.nanosecond % 1000000000 / 1000)) =
      some (t.kept, []) := by
  have hread := readTime_of_regular t.regular_shown
  rwa [t.shown_fields.1, t.writeClock_shown, t.nanosecond_shown] at hread

theorem trimEnd_eq_self {cs : List Char} (h : ∀ c ∈ cs.getLast?, isBlank c = false) :
    trimEnd cs = cs := by
  have hstart : trimStart cs.reverse = cs.reverse :=
    trimStart_eq_self (by simpa only [List.head?_reverse] using h)
  rw [trimEnd, ← trimStart, hstart, List.reverse_reverse]

theorem head_writeYear (year : Int) :
    ∃ c cs, writeYear year = c :: cs ∧ isBlank c = false := by
  rw [writeYear]
  split
  · cases h : padded 4 year.toNat with
    | nil => exact absurd h (padded_ne_nil 4 _)
    | cons c cs =>
      have hc : c ∈ padded 4 year.toNat := by simp [h]
      exact ⟨c, cs, rfl, isBlank_of_isDigit (isDigit_of_mem_padded hc)⟩
  · refine ⟨_, _, rfl, ?_⟩
    split <;> decide

theorem trim_write (t : Timestamp) : trim t.write = t.write := by
  have hstart : ∀ c ∈ t.write.head?, isBlank c = false := by
    obtain ⟨first, cs, hyear, hfirst⟩ := head_writeYear t.date.year
    rw [write, writeDate, hyear]
    intro c hc
    cases hc
    exact hfirst
  have hend : ∀ c ∈ t.write.getLast?, isBlank c = false := by
    have hne := padded_ne_nil 6 (t.nanosecond % 1000000000 / 1000)
    intro c hc
    rw [write, List.getLast?_append, List.getLast?_cons_of_ne_nil hne,
      List.getLast?_eq_some_getLast hne] at hc
    cases hc
    exact isBlank_of_isDigit (isDigit_of_mem_padded (List.getLast_mem hne))
  rw [trim, trimStart_eq_self hstart, trimEnd_eq_self hend]

theorem read_write (t : Timestamp) : read? t.write = some t.kept := by
  have hspaced : readSpaced? t.write = some (t.kept, []) := by
    have hhour : padded 2 t.hour ≠ [] := padded_ne_nil 2 t.hour
    have htrim : trimStart (' ' :: (writeClock t ++
        '.' :: padded 6 (t.nanosecond % 1000000000 / 1000))) =
        writeClock t ++ '.' :: padded 6 (t.nanosecond % 1000000000 / 1000) := by
      rw [trimStart_cons, if_pos (by decide), writeClock, List.append_assoc, List.append_assoc,
        trimStart_digits hhour fun c hc => isDigit_of_mem_padded hc]
    rw [readSpaced?, write, List.append_assoc, List.cons_append, readDate_writeDate]
    simp only [Option.bind_eq_bind, Option.bind_some, htrim, readTime_write]
  rw [read?, trim_write, hspaced]
  rfl

end RecordMapper.Timestamp
