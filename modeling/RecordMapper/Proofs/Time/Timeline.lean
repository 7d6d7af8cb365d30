import RecordMapper.Proofs.Time.Shown

/-!
The line on which timestamps lie: days one after another, the seconds of a day, and the nanoseconds
of a second. A leap second comes after the second that it prolongs and before the next one.
-/

namespace RecordMapper

namespace Date

def daysBeforeMonth (year : Int) : (month : Nat) → Nat
  | 0 => 0
  | 1 => 0
  | month + 2 => daysBeforeMonth year (month + 1) + daysInMonth year (month + 1)

def daysBeforeYear (year : Int) : Int :=
  365 * year + (year - 1) / 4 - (year - 1) / 100 + (year - 1) / 400

def number (d : Date) : Int := daysBeforeYear d.year + daysBeforeMonth d.year d.month + d.day

def yearLength (year : Int) : Nat := if isLeapYear year then 366 else 365

theorem daysBeforeYear_succ (year : Int) :
    daysBeforeYear (year + 1) = daysBeforeYear year + yearLength year := by
  simp only [daysBeforeYear, yearLength, isLeapYear, Bool.and_eq_true, Bool.or_eq_true, beq_iff_eq,
    bne_iff_ne]
  split <;> omega

theorem daysBeforeYear_le {y z : Int} (h : y ≤ z) : daysBeforeYear y ≤ daysBeforeYear z := by
  simp only [daysBeforeYear]
  omega

theorem daysBeforeMonth_succ (year : Int) {month : Nat} (h : 1 ≤ month) :
    daysBeforeMonth year (month + 1) = daysBeforeMonth year month + daysInMonth year month := by
  obtain ⟨m, rfl⟩ := Nat.exists_eq_add_of_le' h
  rfl

theorem daysBeforeMonth_le (year : Int) {m n : Nat} (hm : 1 ≤ m) (h : m < n) :
    daysBeforeMonth year m + daysInMonth year m ≤ daysBeforeMonth year n := by
  induction n with
  | zero => contradiction
  | succ n ih =>
    rcases Nat.lt_succ_iff_lt_or_eq.1 h with hlt | rfl
    · have hstep := daysBeforeMonth_succ year (Nat.le_trans hm (Nat.le_of_lt hlt))
      have hle := ih hlt
      omega
    · exact Nat.le_of_eq (daysBeforeMonth_succ year hm).symm

theorem daysBeforeMonth_thirteen (year : Int) : daysBeforeMonth year 13 = yearLength year := by
  cases h : isLeapYear year <;> simp [daysBeforeMonth, daysInMonth, yearLength, h]

theorem number_le (d : Date) : d.number ≤ daysBeforeYear (d.year + 1) := by
  have hmonth : _ ≤ daysBeforeMonth d.year 13 :=
    daysBeforeMonth_le d.year d.month_pos (Nat.lt_succ_of_le d.month_le)
  have hday := d.day_le
  rw [daysBeforeYear_succ, ← daysBeforeMonth_thirteen, number]
  omega

theorem number_lt_of_year {d e : Date} (h : d.year < e.year) : d.number < e.number := by
  have hd := d.number_le
  have hyears := daysBeforeYear_le h
  have hday := e.day_pos
  have he : e.number = daysBeforeYear e.year + daysBeforeMonth e.year e.month + e.day := rfl
  omega

theorem number_lt_of_month {d e : Date} (hyear : d.year = e.year) (h : d.month < e.month) :
    d.number < e.number := by
  have hmonths := daysBeforeMonth_le d.year d.month_pos h
  have hday := d.day_le
  have hpos := e.day_pos
  simp only [number, ← hyear]
  omega

theorem number_lt_of_day {d e : Date} (hyear : d.year = e.year) (hmonth : d.month = e.month)
    (h : d.day < e.day) : d.number < e.number := by
  simp only [number, hyear, hmonth]
  omega

theorem compare_number (d e : Date) :
    compare d.number e.number =
      (compare d.year e.year).then ((compare d.month e.month).then (compare d.day e.day)) := by
  rcases Int.lt_trichotomy d.year e.year with hyear | hyear | hyear
  · rw [Int.compare_eq_lt.2 hyear, Int.compare_eq_lt.2 (number_lt_of_year hyear)]
    rfl
  · rw [Int.compare_eq_eq.2 hyear, Ordering.eq_then]
    rcases Nat.lt_trichotomy d.month e.month with hmonth | hmonth | hmonth
    · rw [Nat.compare_eq_lt.2 hmonth, Int.compare_eq_lt.2 (number_lt_of_month hyear hmonth)]
      rfl
    · rw [Nat.compare_eq_eq.2 hmonth, Ordering.eq_then]
      rcases Nat.lt_trichotomy d.day e.day with hday | hday | hday
      · rw [Nat.compare_eq_lt.2 hday,
          Int.compare_eq_lt.2 (number_lt_of_day hyear hmonth hday)]
      · rw [Nat.compare_eq_eq.2 hday, Int.compare_eq_eq, number, number, hyear, hmonth, hday]
      · rw [Nat.compare_eq_gt.2 hday,
          Int.compare_eq_gt.2 (number_lt_of_day hyear.symm hmonth.symm hday)]
    · rw [Nat.compare_eq_gt.2 hmonth, Int.compare_eq_gt.2 (number_lt_of_month hyear.symm hmonth)]
      rfl
  · rw [Int.compare_eq_gt.2 hyear, Int.compare_eq_gt.2 (number_lt_of_year hyear)]
    rfl

theorem number_injective {d e : Date} (h : d.number = e.number) : d = e := by
  have hfields := compare_number d e
  rw [Int.compare_eq_eq.2 h] at hfields
  obtain ⟨hyear, hmonth, hday⟩ : compare d.year e.year = .eq ∧ compare d.month e.month = .eq ∧
      compare d.day e.day = .eq := by simpa using hfields.symm
  exact Date.ext (Int.compare_eq_eq.1 hyear) (Nat.compare_eq_eq.1 hmonth)
    (Nat.compare_eq_eq.1 hday)

end Date

namespace Timestamp

def secondOfDay (t : Timestamp) : Nat := (t.hour * 60 + t.minute) * 60 + t.second

def order (t u : Timestamp) : Ordering :=
  (compare t.date.number u.date.number).then
    ((compare t.secondOfDay u.secondOfDay).then (compare t.nanosecond u.nanosecond))

/-- Nanoseconds from the beginning of year zero; a leap second runs into the second after it. -/
def instant (t : Timestamp) : Int :=
  (t.date.number * 86400 + t.secondOfDay) * 1000000000 + t.nanosecond

theorem secondOfDay_injective {t u : Timestamp} (h : t.secondOfDay = u.secondOfDay) :
    t.hour = u.hour ∧ t.minute = u.minute ∧ t.second = u.second := by
  have := t.minute_lt
  have := t.second_lt
  have := u.minute_lt
  have := u.second_lt
  simp only [secondOfDay] at h
  omega

theorem order_eq_eq {t u : Timestamp} : t.order u = .eq ↔ t = u := by
  constructor
  · intro h
    obtain ⟨hdate, hsecond, hnanosecond⟩ : compare t.date.number u.date.number = .eq ∧
        compare t.secondOfDay u.secondOfDay = .eq ∧ compare t.nanosecond u.nanosecond = .eq := by
      simpa [order] using h
    obtain ⟨hh, hm, hs⟩ := secondOfDay_injective (Nat.compare_eq_eq.1 hsecond)
    exact Timestamp.ext (Date.number_injective (Int.compare_eq_eq.1 hdate)) hh hm hs
      (Nat.compare_eq_eq.1 hnanosecond)
  · rintro rfl
    simp [order]

theorem order_toMicros (t : Timestamp) : (t.toMicros.order t).isLE = true := by
  have hle : t.nanosecond / 1000 * 1000 ≤ t.nanosecond := by omega
  have hsame : t.toMicros.order t = compare (t.nanosecond / 1000 * 1000) t.nanosecond := by
    simp [order, secondOfDay]
  rw [hsame]
  exact Nat.isLE_compare.2 hle

theorem instant_toMicros (t : Timestamp) :
    t.toMicros.instant ≤ t.instant ∧ t.instant < t.toMicros.instant + 1000 := by
  simp only [instant, secondOfDay, toMicros_date, toMicros_hour, toMicros_minute, toMicros_second,
    toMicros_nanosecond]
  omega

theorem instant_shown (t : Timestamp) : t.shown.instant = t.instant := by
  obtain ⟨hdate, hhour, hminute, hsum⟩ := t.shown_fields
  rw [instant, instant, secondOfDay, secondOfDay, hdate, hhour, hminute]
  omega

theorem instant_kept (t : Timestamp) :
    t.kept.instant ≤ t.instant ∧ t.instant < t.kept.instant + 1000 := by
  have hshown := t.shown.instant_toMicros
  rwa [t.instant_shown] at hshown

end Timestamp

end RecordMapper
