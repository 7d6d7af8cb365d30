import RecordMapper.Proofs.Text.Order
import RecordMapper.Proofs.Time.Layouts

namespace RecordMapper.Timestamp

open Numeral Text

def FourDigits (year : Int) : Prop := 0 ≤ year ∧ year ≤ 9999

instance (year : Int) : Decidable (FourDigits year) := inferInstanceAs (Decidable (_ ∧ _))

theorem writeYear_plain {year : Int} (h : FourDigits year) :
    writeYear year = padded 4 year.toNat := if_pos h

theorem compare_padded {w m n : Nat} (hw : 0 < w) (hm : m < Nat.pow 10 w) (hn : n < Nat.pow 10 w)
    (cs ds : List Char) :
    compare (padded w m ++ cs) (padded w n ++ ds) = (compare m n).then (compare cs ds) := by
  have hlength : (padded w m).length = (padded w n).length := by
    rw [length_padded_of_lt hw hm, length_padded_of_lt hw hn]
  rw [compare_append hlength, compare_value (fun c hc => isDigit_of_mem_padded hc)
    (fun c hc => isDigit_of_mem_padded hc) hlength, value_padded, value_padded]

theorem compare_writeYear {y z : Int} (hy : FourDigits y) (hz : FourDigits z) (cs ds : List Char) :
    compare (writeYear y ++ cs) (writeYear z ++ ds) = (compare y z).then (compare cs ds) := by
  obtain ⟨m, rfl⟩ := Int.eq_ofNat_of_zero_le hy.1
  obtain ⟨n, rfl⟩ := Int.eq_ofNat_of_zero_le hz.1
  have hm : m < Nat.pow 10 4 := Nat.lt_succ_of_le (Int.ofNat_le.1 hy.2)
  have hn : n < Nat.pow 10 4 := Nat.lt_succ_of_le (Int.ofNat_le.1 hz.2)
  have hsame : compare (m : Int) (n : Int) = compare m n := by
    simp only [compare, compareOfLessAndEq, Int.ofNat_lt, Int.ofNat_inj]
  rw [writeYear_plain hy, writeYear_plain hz, hsame]
  exact compare_padded (by decide) hm hn cs ds

theorem compare_writeDate {d e : Date} (hd : FourDigits d.year) (he : FourDigits e.year)
    (cs ds : List Char) :
    compare (writeDate d ++ cs) (writeDate e ++ ds) =
      (compare d.number e.number).then (compare cs ds) := by
  have hmonth : ∀ d : Date, d.month < Nat.pow 10 2 := fun d =>
    Nat.lt_of_le_of_lt d.month_le (by decide)
  have hday : ∀ d : Date, d.day < Nat.pow 10 2 := fun d =>
    Nat.lt_of_le_of_lt (Nat.le_trans d.day_le (daysInMonth_le d.year d.month)) (by decide)
  simp only [writeDate, List.append_assoc, List.cons_append]
  rw [compare_writeYear hd he, compare_same, compare_padded (by decide) (hmonth d) (hmonth e),
    compare_same, compare_padded (by decide) (hday d) (hday e), Date.compare_number,
    Ordering.then_assoc, Ordering.then_assoc]

theorem compare_clockSecond {t u : Timestamp} (ht : t.Regular) (hu : u.Regular) :
    (compare t.clockSecond u.clockSecond).then
        (compare (t.nanosecond % 1000000000 / 1000) (u.nanosecond % 1000000000 / 1000)) =
      (compare t.second u.second).then (compare t.toMicros.nanosecond u.toMicros.nanosecond) := by
  have hsum : ∀ t : Timestamp, t.clockSecond * 1000000 + t.nanosecond % 1000000000 / 1000 =
      t.second * 1000000 + t.nanosecond / 1000 := fun t => by
    simp only [clockSecond]
    omega
  -- only the last second of a minute has more than a million microseconds
  have hlater : ∀ {t u : Timestamp}, t.Regular → t.second < u.second →
      t.second * 1000000 + t.nanosecond / 1000 < u.second * 1000000 + u.nanosecond / 1000 := by
    intro t u hshort h
    have hlast := u.second_lt
    rw [Regular] at hshort
    omega
  rw [← compare_positions (b := 1000000) _ _ (by omega) (by omega), hsum, hsum]
  rcases Nat.lt_trichotomy t.second u.second with h | h | h
  · rw [Nat.compare_eq_lt.2 h, Nat.compare_eq_lt.2 (hlater ht h)]
    rfl
  · rw [h, Nat.compare_eq_eq.2 rfl, Ordering.eq_then]
    have hlt : u.second * 1000000 + t.nanosecond / 1000 < u.second * 1000000 + u.nanosecond / 1000 ↔
        t.toMicros.nanosecond < u.toMicros.nanosecond := by
      rw [toMicros_nanosecond, toMicros_nanosecond]
      omega
    have heq : u.second * 1000000 + t.nanosecond / 1000 = u.second * 1000000 + u.nanosecond / 1000 ↔
        t.toMicros.nanosecond = u.toMicros.nanosecond := by
      rw [toMicros_nanosecond, toMicros_nanosecond]
      omega
    simp only [compare, compareOfLessAndEq, hlt, heq]
  · rw [Nat.compare_eq_gt.2 h, Nat.compare_eq_gt.2 (hlater hu h)]
    rfl

theorem compare_secondOfDay (t u : Timestamp) :
    compare t.secondOfDay u.secondOfDay =
      (compare t.hour u.hour).then ((compare t.minute u.minute).then
        (compare t.second u.second)) := by
  rw [secondOfDay, secondOfDay, compare_positions _ _ t.second_lt u.second_lt,
    compare_positions _ _ t.minute_lt u.minute_lt, Ordering.then_assoc]

theorem compare_writeTime {t u : Timestamp} (ht : t.Regular) (hu : u.Regular) (cs ds : List Char) :
    compare (writeTime t ++ cs) (writeTime u ++ ds) =
      ((compare t.secondOfDay u.secondOfDay).then
        (compare t.toMicros.nanosecond u.toMicros.nanosecond)).then (compare cs ds) := by
  have hhour : ∀ t : Timestamp, t.hour < Nat.pow 10 2 := fun t =>
    Nat.lt_trans t.hour_lt (by decide)
  have hminute : ∀ t : Timestamp, t.minute < Nat.pow 10 2 := fun t =>
    Nat.lt_trans t.minute_lt (by decide)
  have hsecond : ∀ t : Timestamp, t.clockSecond < Nat.pow 10 2 := fun t => by
    have hsecond := t.second_lt
    have hnanosecond := t.nanosecond_lt
    have hlimit : Nat.pow 10 2 = 100 := rfl
    simp only [clockSecond]
    omega
  have hmicros : ∀ t : Timestamp, t.nanosecond % 1000000000 / 1000 < Nat.pow 10 6 := fun t => by
    have hlimit : Nat.pow 10 6 = 1000000 := rfl
    omega
  simp only [writeTime, writeClock, List.append_assoc, List.cons_append]
  rw [compare_padded (by decide) (hhour t) (hhour u), compare_same,
    compare_padded (by decide) (hminute t) (hminute u), compare_same,
    compare_padded (by decide) (hsecond t) (hsecond u), compare_same,
    compare_padded (by decide) (hmicros t) (hmicros u), compare_secondOfDay]
  simp only [Ordering.then_assoc]
  rw [← Ordering.then_assoc (compare t.clockSecond u.clockSecond), compare_clockSecond ht hu,
    Ordering.then_assoc]

/-- Written timestamps are ordered as the clock shows them, and then by what follows them. -/
theorem compare_write {t u : Timestamp} (ht : FourDigits t.date.year)
    (hu : FourDigits u.date.year) (cs ds : List Char) :
    compare (t.write ++ cs) (u.write ++ ds) = (t.kept.order u.kept).then (compare cs ds) := by
  have hdates := compare_writeDate ht hu
  rw [← t.shown_fields.1, ← u.shown_fields.1] at hdates
  rw [← t.write_shown, ← u.write_shown, write_eq, write_eq, List.append_assoc, List.append_assoc,
    hdates, List.cons_append, List.cons_append, compare_same,
    compare_writeTime t.regular_shown u.regular_shown, kept, kept, order]
  simp only [Ordering.then_assoc, secondOfDay, toMicros_date, toMicros_hour, toMicros_minute,
    toMicros_second]

def isStamp (c : Char) : Bool := c.isDigit || ['-', '+', ':', ' ', '.'].contains c

theorem isStamp_of_mem_write (t : Timestamp) : ∀ c ∈ t.write, isStamp c = true := by
  have hdigit : ∀ c : Char, c.isDigit = true → isStamp c = true := fun c hc => by
    rw [isStamp, hc, Bool.true_or]
  exact List.forall_mem_append.2 ⟨List.forall_mem_append.2
    ⟨forall_mem_writeDate hdigit rfl rfl t.date,
      List.forall_mem_cons.2 ⟨rfl, forall_mem_writeClock hdigit rfl t⟩⟩,
    List.forall_mem_cons.2 ⟨rfl, forall_mem_padded hdigit 6 _⟩⟩

theorem ascii_of_isStamp {cs : List Char} (h : ∀ c ∈ cs, isStamp c = true) : Ascii cs := by
  intro c hc
  rcases Bool.or_eq_true_iff.1 (h c hc) with hdigit | hmark
  · have hrange := Sql.toNat_of_isDigit hdigit
    omega
  · simp only [List.contains_eq_mem, decide_eq_true_eq, List.mem_cons, List.not_mem_nil,
      or_false] at hmark
    rcases hmark with rfl | rfl | rfl | rfl | rfl <;> decide

theorem double_of_isStamp {cs : List Char} (h : ∀ c ∈ cs, isStamp c = true) :
    double '\'' cs = cs := by
  induction cs with
  | nil => rfl
  | cons c cs ih =>
    obtain ⟨hc, hcs⟩ := List.forall_mem_cons.1 h
    have hquote : c ≠ '\'' := by
      rintro rfl
      contradiction
    rw [double, if_neg hquote, ih hcs]

theorem literal_eq (d : Dialect) (t : Timestamp) :
    d.literal (.timestamp t) = String.ofList ('\'' :: (t.write ++ ['\''])) := by
  rw [Dialect.literal, quoteText, Value.display, String.toList_ofList, quoted,
    double_of_isStamp (isStamp_of_mem_write t)]

theorem literal_kept (d : Dialect) (t : Timestamp) :
    d.literal (.timestamp t.kept) = d.literal (.timestamp t) := by
  rw [literal_eq, literal_eq, write_kept]

theorem compareBytes_literal (d : Dialect) {t u : Timestamp} (ht : FourDigits t.date.year)
    (hu : FourDigits u.date.year) :
    compareBytes (d.literal (.timestamp t)) (d.literal (.timestamp u)) =
      t.kept.order u.kept := by
  have hascii : ∀ t : Timestamp, Ascii ('\'' :: (t.write ++ ['\''])) := fun t =>
    ascii_cons.2 ⟨by decide, (ascii_of_isStamp (isStamp_of_mem_write t)).append
      (ascii_cons.2 ⟨by decide, nofun⟩)⟩
  rw [literal_eq, literal_eq, compareBytes_ofList (hascii t) (hascii u), compare_same,
    compare_write ht hu, Std.compare_self, Ordering.then_eq]

end RecordMapper.Timestamp
