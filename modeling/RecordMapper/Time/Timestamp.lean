import RecordMapper.Time.Date
import RecordMapper.Numeral.Decimal

/-!
A day and a time of day, to the nanosecond, without a time zone. A leap second is told by a
nanosecond count of a billion or more. It belongs behind the last second of a minute, and a setter
puts it behind any other.
-/

namespace RecordMapper

@[ext] structure Timestamp where
  date : Date
  hour : Nat
  minute : Nat
  second : Nat
  nanosecond : Nat
  hour_lt : hour < 24
  minute_lt : minute < 60
  second_lt : second < 60
  nanosecond_lt : nanosecond < 2000000000
  deriving DecidableEq

namespace Timestamp

def of? (date : Date) (hour minute second nanosecond : Nat) : Option Timestamp :=
  if h : hour < 24 ∧ minute < 60 ∧ second < 60 ∧ nanosecond < 2000000000 ∧
      (1000000000 ≤ nanosecond → second = 59) then
    some ⟨date, hour, minute, second, nanosecond, h.1, h.2.1, h.2.2.1, h.2.2.2.1⟩
  else none

def withNanosecond? (t : Timestamp) (nanosecond : Nat) : Option Timestamp :=
  if h : nanosecond < 2000000000 then some { t with nanosecond, nanosecond_lt := h } else none

/-- Cut to whole microseconds, the finest precision that stored timestamps keep. -/
def toMicros (t : Timestamp) : Timestamp :=
  (t.withNanosecond? (t.nanosecond / 1000 * 1000)).getD t

theorem withNanosecond_cut (t : Timestamp) :
    t.withNanosecond? (t.nanosecond / 1000 * 1000) = some t.toMicros := by
  have h : t.nanosecond / 1000 * 1000 < 2000000000 := by have := t.nanosecond_lt; omega
  rw [toMicros, withNanosecond?, dif_pos h, Option.getD_some]

section cut

variable (t : Timestamp)

theorem toMicros_eq : ∃ h, t.toMicros =
    { t with nanosecond := t.nanosecond / 1000 * 1000, nanosecond_lt := h } := by
  have h := t.withNanosecond_cut
  rw [withNanosecond?] at h
  split at h
  · exact ⟨_, (Option.some.inj h).symm⟩
  · contradiction

@[simp] theorem toMicros_date : t.toMicros.date = t.date := by rw [t.toMicros_eq.2]

@[simp] theorem toMicros_hour : t.toMicros.hour = t.hour := by rw [t.toMicros_eq.2]

@[simp] theorem toMicros_minute : t.toMicros.minute = t.minute := by rw [t.toMicros_eq.2]

@[simp] theorem toMicros_second : t.toMicros.second = t.second := by rw [t.toMicros_eq.2]

@[simp] theorem toMicros_nanosecond :
    t.toMicros.nanosecond = t.nanosecond / 1000 * 1000 := by rw [t.toMicros_eq.2]

end cut

open Numeral

def writeYear (year : Int) : List Char :=
  if 0 ≤ year ∧ year ≤ 9999 then padded 4 year.toNat
  else (if year < 0 then '-' else '+') :: padded 4 year.natAbs

def writeDate (d : Date) : List Char :=
  writeYear d.year ++ '-' :: padded 2 d.month ++ '-' :: padded 2 d.day

/-- The second as a clock shows it: a leap second is the one after, at most the sixtieth. -/
def clockSecond (t : Timestamp) : Nat := t.second + t.nanosecond / 1000000000

def writeClock (t : Timestamp) : List Char :=
  padded 2 t.hour ++ ':' :: padded 2 t.minute ++ ':' :: padded 2 t.clockSecond

def write (t : Timestamp) : List Char :=
  writeDate t.date ++ ' ' :: writeClock t ++ '.' :: padded 6 (t.nanosecond % 1000000000 / 1000)

def writeFraction (nanosecond : Nat) : List Char :=
  if nanosecond = 0 then []
  else if nanosecond % 1000000 = 0 then '.' :: padded 3 (nanosecond / 1000000)
  else if nanosecond % 1000 = 0 then '.' :: padded 6 (nanosecond / 1000)
  else '.' :: padded 9 nanosecond

def inMessage (t : Timestamp) : List Char :=
  writeDate t.date ++ 'T' :: writeClock t ++ writeFraction (t.nanosecond % 1000000000)

def minutesEarlier? (t : Timestamp) (minutes : Int) : Option Timestamp :=
  let total := (t.hour * 60 + t.minute : Nat) - minutes
  let at? (date : Date) (total : Nat) : Option Timestamp :=
    if h : total < 1440 then
      some { t with
        date
        hour := total / 60
        minute := total % 60
        hour_lt := by omega
        minute_lt := by omega }
    else none
  if total < 0 then t.date.previous?.bind fun d => at? d (total + 1440).toNat
  else if total < 1440 then at? t.date total.toNat
  else t.date.next?.bind fun d => at? d (total - 1440).toNat

end Timestamp

end RecordMapper
