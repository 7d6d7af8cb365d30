import RecordMapper.Time.Timestamp

namespace RecordMapper.Timestamp

variable (t : Timestamp)

/-- Whether a leap second, if there is one, stands behind the last second of its minute. -/
def Regular : Prop := 1000000000 ≤ t.nanosecond → t.second = 59

instance : Decidable t.Regular := inferInstanceAs (Decidable (_ → _))

/-- A timestamp as a clock shows it: a leap second behind another second runs into the next one. -/
def shown : Timestamp :=
  if h : 1000000000 ≤ t.nanosecond ∧ t.second ≠ 59 then
    { t with
      second := t.second + 1
      nanosecond := t.nanosecond - 1000000000
      second_lt := by have := t.second_lt; omega
      nanosecond_lt := by have := t.nanosecond_lt; omega }
  else t

/-- What the text of a timestamp keeps of it. -/
def kept : Timestamp := t.shown.toMicros

variable {t}

theorem of_regular (h : t.Regular) :
    of? t.date t.hour t.minute t.second t.nanosecond = some t := by
  rw [of?, dif_pos ⟨t.hour_lt, t.minute_lt, t.second_lt, t.nanosecond_lt, h⟩]

theorem shown_of_regular (h : t.Regular) : t.shown = t :=
  dif_neg fun hlate => hlate.2 (h hlate.1)

theorem Regular.toMicros (h : t.Regular) : t.toMicros.Regular := by
  intro hlate
  rw [toMicros_nanosecond] at hlate
  rw [toMicros_second]
  exact h (by omega)

variable (t)

theorem shown_fields :
    t.shown.date = t.date ∧ t.shown.hour = t.hour ∧ t.shown.minute = t.minute ∧
      t.shown.second * 1000000000 + t.shown.nanosecond = t.second * 1000000000 + t.nanosecond := by
  rw [shown]
  split
  · refine ⟨rfl, rfl, rfl, ?_⟩
    simp only
    omega
  · exact ⟨rfl, rfl, rfl, rfl⟩

theorem regular_shown : t.shown.Regular := by
  rw [Regular, shown]
  have hlt := t.nanosecond_lt
  split
  · simp only
    omega
  · omega

theorem kept_of_regular {t : Timestamp} (h : t.Regular) : t.kept = t.toMicros := by
  rw [kept, shown_of_regular h]

theorem kept_eq_iff : t.kept = t.toMicros ↔ t.Regular := by
  refine ⟨fun h hlate => ?_, kept_of_regular⟩
  have hregular := t.regular_shown.toMicros
  rw [← kept, h, Regular, toMicros_nanosecond, toMicros_second] at hregular
  exact hregular (by omega)

@[simp] theorem toMicros_toMicros : t.toMicros.toMicros = t.toMicros := by
  ext <;> simp

theorem clockSecond_shown : t.shown.clockSecond = t.clockSecond := by
  obtain ⟨-, -, -, hsum⟩ := t.shown_fields
  have hregular := t.regular_shown
  rw [clockSecond, clockSecond]
  omega

theorem nanosecond_shown : t.shown.nanosecond % 1000000000 = t.nanosecond % 1000000000 := by
  obtain ⟨-, -, -, hsum⟩ := t.shown_fields
  omega

theorem writeClock_shown : writeClock t.shown = writeClock t := by
  obtain ⟨-, hhour, hminute, -⟩ := t.shown_fields
  rw [writeClock, writeClock, hhour, hminute, t.clockSecond_shown]

theorem write_shown : t.shown.write = t.write := by
  rw [write, write, t.shown_fields.1, t.writeClock_shown, t.nanosecond_shown]

theorem write_toMicros : t.toMicros.write = t.write := by
  have hclock : t.toMicros.clockSecond = t.clockSecond := by
    simp only [clockSecond, toMicros_second, toMicros_nanosecond]
    omega
  have hmicros : t.toMicros.nanosecond % 1000000000 / 1000 = t.nanosecond % 1000000000 / 1000 := by
    rw [toMicros_nanosecond]
    omega
  simp only [write, writeClock, hclock, hmicros, toMicros_date, toMicros_hour, toMicros_minute]

theorem write_kept : t.kept.write = t.write := by rw [kept, write_toMicros, write_shown]

end RecordMapper.Timestamp

namespace RecordMapper.Sample

def moment? (year : Int) (month day hour minute second nanosecond : Nat) : Option Timestamp :=
  (Date.of? year month day).bind fun date => Timestamp.of? date hour minute second nanosecond

/-- A leap second behind 23:56:04, where no clock shows one. -/
def straggler : Timestamp :=
  ((moment? 2024 1 2 23 56 4 0).bind fun t => t.withNanosecond? 1333333333).get (by decide)

def stragglerShown : Timestamp := (moment? 2024 1 2 23 56 5 333333000).get (by decide)

end RecordMapper.Sample
