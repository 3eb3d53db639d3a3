/-!
The proleptic Gregorian calendar. Days are counted from 1 January 1970; a year counted from March
puts the leap day last, which makes both directions plain arithmetic.
-/

namespace DeliveryCheck

structure Date where
  year : Int
  month : Nat
  day : Nat
deriving DecidableEq

namespace Date

def isLeapYear (year : Int) : Bool :=
  year % 4 == 0 && (year % 100 != 0 || year % 400 == 0)

def daysInMonth (year : Int) (month : Nat) : Nat :=
  if month = 2 then (if isLeapYear year then 29 else 28)
  else if month = 4 ∨ month = 6 ∨ month = 9 ∨ month = 11 then 30
  else 31

/-- Days in the years of an era of 400 that lie before the given one, years starting in March. -/
def daysBeforeYear (yearOfEra : Int) : Int := yearOfEra * 365 + yearOfEra / 4 - yearOfEra / 100

/-- Days in the months before the given one, March being month zero. -/
def daysBeforeMonth (monthFromMarch : Int) : Int := (153 * monthFromMarch + 2) / 5

def toDays (d : Date) : Int :=
  let year := if d.month ≤ 2 then d.year - 1 else d.year
  let month : Int := (d.month + 9) % 12
  year / 400 * 146097 + daysBeforeYear (year % 400) + daysBeforeMonth month + d.day - 1 - 719468

def ofDays (days : Int) : Date :=
  let shifted := days + 719468
  let dayOfEra := shifted % 146097
  let yearOfEra := (dayOfEra - dayOfEra / 1460 + dayOfEra / 36524 - dayOfEra / 146096) / 365
  let dayOfYear := dayOfEra - daysBeforeYear yearOfEra
  let monthFromMarch := (5 * dayOfYear + 2) / 153
  let month := (monthFromMarch + 2) % 12 + 1
  let year := shifted / 146097 * 400 + yearOfEra + (if month ≤ 2 then 1 else 0)
  ⟨year, month.toNat, (dayOfYear - daysBeforeMonth monthFromMarch + 1).toNat⟩

end Date

end DeliveryCheck
