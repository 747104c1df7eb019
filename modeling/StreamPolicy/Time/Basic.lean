/-!
# Points in time

A `Time` is a `Date` and a `Clock`, the time of day, in universal time. Its parts are kept apart, so
that writing and reading it needs no arithmetic; `Time.ofLocal?` moves a time of another zone by at
most one day.
-/

namespace StreamPolicy

def isLeapYear (year : Int) : Bool := year % 4 == 0 && (year % 100 != 0 || year % 400 == 0)

/-- The days of a month; there are none unless `month` is 1 to 12. -/
def daysInMonth (year : Int) (month : Nat) : Nat :=
  if month == 2 then if isLeapYear year then 29 else 28
  else if month == 4 || month == 6 || month == 9 || month == 11 then 30
  else if 1 ≤ month && month ≤ 12 then 31
  else 0

structure Date where
  year : Int
  month : Nat
  day : Nat
  deriving DecidableEq, Repr

namespace Date

def firstYear : Int := -262143

def lastYear : Int := 262142

/-- Whether there is such a day. -/
def isValid (d : Date) : Bool :=
  firstYear ≤ d.year && d.year ≤ lastYear && 1 ≤ d.day && d.day ≤ daysInMonth d.year d.month

def next (d : Date) : Date :=
  if d.day < daysInMonth d.year d.month then { d with day := d.day + 1 }
  else if d.month < 12 then { d with month := d.month + 1, day := 1 }
  else ⟨d.year + 1, 1, 1⟩

def previous (d : Date) : Date :=
  if 1 < d.day then { d with day := d.day - 1 }
  else if 1 < d.month then { d with month := d.month - 1, day := daysInMonth d.year (d.month - 1) }
  else ⟨d.year - 1, 12, 31⟩

end Date

/-- A time of day; second 60 is a leap second. -/
structure Clock where
  hour : Nat
  minute : Nat
  second : Nat
  nanos : Nat := 0
  deriving DecidableEq, Repr

def Clock.isValid (c : Clock) : Bool :=
  c.hour < 24 && c.minute < 60 && c.second ≤ 60 && c.nanos < 1000000000

/-- A point in time, of which both parts are valid. -/
structure Time where
  date : Date
  clock : Clock
  isValid : date.isValid && clock.isValid
  deriving DecidableEq, Repr

namespace Time

def make? (date : Date) (clock : Clock) : Option Time :=
  if h : date.isValid && clock.isValid then some ⟨date, clock, h⟩ else none

/-- The date and the time of day `minutes` earlier, for less than a day. -/
def earlier (date : Date) (clock : Clock) (minutes : Int) : Date × Clock :=
  let total : Int := clock.hour * 60 + clock.minute - minutes
  let date := if total < 0 then date.previous else if 1440 ≤ total then date.next else date
  let inDay := (total % 1440).toNat
  (date, { clock with hour := inDay / 60, minute := inDay % 60 })

/-- The point in time at which clocks that are `ahead` minutes show `date` and `clock`. -/
def ofLocal? (date : Date) (clock : Clock) (ahead : Int) : Option Time :=
  if date.isValid && clock.isValid then
    if ahead = 0 then make? date clock
    else
      let (date, clock) := earlier date clock ahead
      make? date clock
  else none

/-- The midnight at which the count of seconds begins. -/
def epoch : Time := ⟨⟨1970, 1, 1⟩, ⟨0, 0, 0, 0⟩, rfl⟩

end Time

end StreamPolicy
