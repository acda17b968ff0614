/-!
# The calendar

Years, months and days, and the weeks of a year. Week 1 is the one with the first Thursday, so a
year has 53 weeks if it begins on a Thursday, or on a Wednesday and is a leap year.
-/
namespace TextMemory

def isLeapYear (y : Nat) : Bool := y % 4 == 0 && (y % 100 != 0 || y % 400 == 0)

def daysInMonth (y m : Nat) : Nat :=
  if m = 2 then if isLeapYear y then 29 else 28
  else if m = 4 || m = 6 || m = 9 || m = 11 then 30 else 31

abbrev Date := Nat × Nat × Nat

namespace Date

def ofDays (days : Nat) : Date :=
  let era := days / 146097
  let dayOfEra := days % 146097
  let yearOfEra := (dayOfEra - dayOfEra / 1460 + dayOfEra / 36524 - dayOfEra / 146096) / 365
  let dayOfYear := dayOfEra - (365 * yearOfEra + yearOfEra / 4 - yearOfEra / 100)
  let fromMarch := (5 * dayOfYear + 2) / 153
  let day := dayOfYear - (153 * fromMarch + 2) / 5 + 1
  let month := if fromMarch < 10 then fromMarch + 3 else fromMarch - 9
  (yearOfEra + era * 400 + (if month ≤ 2 then 1 else 0), month, day)

def daysBefore (y : Nat) : Nat := (y - 1) * 365 + (y - 1) / 4 - (y - 1) / 100 + (y - 1) / 400

def firstWeekday (y : Nat) : Nat := daysBefore y % 7

def weeksInYear (y : Nat) : Nat :=
  if firstWeekday y = 3 || (firstWeekday y = 2 && isLeapYear y) then 53 else 52

def firstMonday (y : Nat) : Nat :=
  daysBefore y - firstWeekday y + if 3 < firstWeekday y then 7 else 0

def ofWeek? (year week day : Nat) : Option Date :=
  if week < 1 ∨ (if year = 0 then 52 else weeksInYear year) < week ∨ day < 1 ∨ 7 < day then none
  else if year = 0 then some (1, 0, 0)
  else some (ofDays (firstMonday year + 7 * (week - 1) + (day - 1) + 306))

end Date
end TextMemory
