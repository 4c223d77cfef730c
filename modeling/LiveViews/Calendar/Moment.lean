import LiveViews.Text.Numeral

/-!
Moments of the civil calendar, with the offset of the clock they were read from. The calendar goes on
unchanged before its introduction and before the year 1.
-/

namespace LiveViews.Calendar

open LiveViews.Text

structure Moment where
  year : Int
  month : Nat
  day : Nat
  hour : Nat
  minute : Nat
  second : Nat
  nanosecond : Nat
  /-- Minutes ahead of universal time. -/
  offset : Int

def monthNames : List String :=
  ["January", "February", "March", "April", "May", "June", "July", "August", "September",
   "October", "November", "December"]

def dayNames : List String :=
  ["Sunday", "Monday", "Tuesday", "Wednesday", "Thursday", "Friday", "Saturday"]

def shortName (name : String) : String :=
  String.ofList (name.toList.take 3)

def isLeap (year : Int) : Bool :=
  (year % 4 = 0 && year % 100 ≠ 0) || year % 400 = 0

def monthLength (year : Int) (month : Nat) : Nat :=
  if month = 2 then (if isLeap year then 29 else 28)
  else if month = 4 ∨ month = 6 ∨ month = 9 ∨ month = 11 then 30
  else 31

def yearLength (year : Int) : Nat :=
  if isLeap year then 366 else 365

def daysBeforeMonth (year : Int) (month : Nat) : Nat :=
  ((List.range (month - 1)).map fun earlier => monthLength year (earlier + 1)).foldr (· + ·) 0

def daysBeforeYear (year : Int) : Int :=
  let last := year - 1
  365 * year + last / 4 - last / 100 + last / 400 + 1

namespace Moment

def dayOfYear (moment : Moment) : Nat :=
  daysBeforeMonth moment.year moment.month + moment.day

def dayNumber (moment : Moment) : Int :=
  daysBeforeYear moment.year + moment.dayOfYear - 1

def weekday (moment : Moment) : Nat :=
  ((moment.dayNumber + 6) % 7).toNat

def timestamp (moment : Moment) : Int :=
  (moment.dayNumber - daysBeforeYear 1970) * 86400
    + (moment.hour * 3600 + moment.minute * 60 + moment.second : Nat) - moment.offset * 60

/-- The week of the year when weeks start on that weekday; days before the first one are in week
zero. -/
def weekFrom (moment : Moment) (firstWeekday : Nat) : Nat :=
  (moment.dayOfYear + 6 - (moment.weekday + 7 - firstWeekday) % 7) / 7

def isoWeek (moment : Moment) : Int × Nat :=
  let fromMonday := (moment.weekday + 6) % 7
  let thursday : Int := (moment.dayOfYear : Int) + 3 - fromMonday
  let weekOf (day : Int) : Nat := (day.toNat - 1) / 7 + 1
  if thursday < 1 then
    (moment.year - 1, weekOf (thursday + yearLength (moment.year - 1)))
  else if thursday > yearLength moment.year then (moment.year + 1, 1)
  else (moment.year, weekOf thursday)

end Moment

end LiveViews.Calendar
