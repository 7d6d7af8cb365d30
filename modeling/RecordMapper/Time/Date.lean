namespace RecordMapper

def isLeapYear (year : Int) : Bool := year % 4 == 0 && (year % 100 != 0 || year % 400 == 0)

def daysInMonth (year : Int) (month : Nat) : Nat :=
  if month = 2 then (if isLeapYear year then 29 else 28)
  else if month = 4 ∨ month = 6 ∨ month = 9 ∨ month = 11 then 30
  else 31

@[ext] structure Date where
  year : Int
  month : Nat
  day : Nat
  year_ge : -262143 ≤ year
  year_le : year ≤ 262142
  month_pos : 1 ≤ month
  month_le : month ≤ 12
  day_pos : 1 ≤ day
  day_le : day ≤ daysInMonth year month
  deriving DecidableEq

namespace Date

def of? (year : Int) (month day : Nat) : Option Date :=
  if h : -262143 ≤ year ∧ year ≤ 262142 ∧ 1 ≤ month ∧ month ≤ 12 ∧ 1 ≤ day ∧
      day ≤ daysInMonth year month then
    some ⟨year, month, day, h.1, h.2.1, h.2.2.1, h.2.2.2.1, h.2.2.2.2.1, h.2.2.2.2.2⟩
  else none

theorem of_fields (d : Date) : of? d.year d.month d.day = some d := by
  have h := And.intro d.year_ge <| And.intro d.year_le <| And.intro d.month_pos <|
    And.intro d.month_le <| And.intro d.day_pos d.day_le
  rw [of?, dif_pos h]

def next? (d : Date) : Option Date :=
  (of? d.year d.month (d.day + 1)).or
    ((of? d.year (d.month + 1) 1).or (of? (d.year + 1) 1 1))

def previous? (d : Date) : Option Date :=
  if d.day ≠ 1 then of? d.year d.month (d.day - 1)
  else if d.month ≠ 1 then of? d.year (d.month - 1) (daysInMonth d.year (d.month - 1))
  else of? (d.year - 1) 12 31

end Date

end RecordMapper
