import LogSieve.Text.Character

/-! The proleptic Gregorian calendar with days of equal length, to the second. An instant is counted in
seconds from the first day of the year 1, so that going back some hours is a subtraction. -/

namespace LogSieve

structure Moment where
  year : Int
  month : Nat
  day : Nat
  hour : Nat
  minute : Nat
  second : Nat
  deriving DecidableEq

namespace Calendar

def isLeap (year : Int) : Bool := year % 4 == 0 && (year % 100 != 0 || year % 400 == 0)

def monthLengths (year : Int) : List Nat :=
  [31, if isLeap year then 29 else 28, 31, 30, 31, 30, 31, 31, 30, 31, 30, 31]

/-- Days from the first day of the year 1 to the first day of `year`. -/
def daysBeforeYear (year : Int) : Int :=
  let past := year - 1
  365 * past + past / 4 - past / 100 + past / 400

def daysBeforeMonth (year : Int) (month : Nat) : Nat :=
  ((monthLengths year).take (month - 1)).foldr Nat.add 0

/-- The year of a day, and the day's place in it from zero. Four centuries, a century, four years
and a year are taken off in turn; the last century and the last year of their groups are
the long ones. -/
def yearOfDay (day : Int) : Int × Nat :=
  let cycle := day / 146097
  let inCycle := (day % 146097).toNat
  let century := min 3 (inCycle / 36524)
  let inCentury := inCycle - century * 36524
  let group := inCentury / 1461
  let inGroup := inCentury % 1461
  let single := min 3 (inGroup / 365)
  (400 * cycle + (100 * century + 4 * group + single : Nat) + 1, inGroup - single * 365)

/-- The month that a day of the year falls in, counted from one, and the day of that month. -/
def monthOfDay : List Nat → Nat → Nat × Nat
  | [], day => (1, day + 1)
  | length :: lengths, day =>
    if day < length then (1, day + 1)
    else
      let (month, day) := monthOfDay lengths (day - length)
      (month + 1, day)

end Calendar

namespace Moment
open Calendar

def firstYear : Int := -262143
def lastYear : Int := 262142

def isValid (moment : Moment) : Bool :=
  firstYear ≤ moment.year && moment.year ≤ lastYear &&
    1 ≤ moment.month && moment.month ≤ 12 && 1 ≤ moment.day &&
    moment.day ≤ ((monthLengths moment.year)[moment.month - 1]?.getD 0) &&
    moment.hour < 24 && moment.minute < 60 && moment.second < 60

def toSeconds (moment : Moment) : Int :=
  (daysBeforeYear moment.year + daysBeforeMonth moment.year moment.month + moment.day - 1) * 86400 +
    moment.hour * 3600 + moment.minute * 60 + moment.second

def ofSeconds (seconds : Int) : Moment :=
  let (year, dayOfYear) := yearOfDay (seconds / 86400)
  let (month, day) := monthOfDay (monthLengths year) dayOfYear
  let inDay := (seconds % 86400).toNat
  { year, month, day, hour := inDay / 3600, minute := inDay / 60 % 60, second := inDay % 60 }

/-- The moment some hours earlier; nothing if that lies before the first year. -/
def hoursBefore? (moment : Moment) (hours : Nat) : Option Moment :=
  let seconds := moment.toSeconds - 3600 * hours
  if daysBeforeYear firstYear * 86400 ≤ seconds then some (ofSeconds seconds) else none

def padded (width n : Nat) : List Char :=
  let digits := Text.decimal n
  List.replicate (width - digits.length) '0' ++ digits

/-- Four digits for the years from 0 to 9999; any other year has a sign. -/
def yearText (year : Int) : List Char :=
  if 0 ≤ year ∧ year ≤ 9999 then padded 4 year.toNat
  else (if year < 0 then '-' else '+') :: padded 4 year.natAbs

/-- The layout of times in the log store: `2024-05-31T23:59:59`. -/
def text (moment : Moment) : String :=
  String.ofList <| yearText moment.year ++ '-' :: padded 2 moment.month ++ '-' :: padded 2 moment.day ++
    'T' :: padded 2 moment.hour ++ ':' :: padded 2 moment.minute ++ ':' :: padded 2 moment.second

end Moment

end LogSieve
