import Fleet.Text.Decimal

/-!
# Times as text

Seconds since 1970 in the proleptic Gregorian calendar, as `year-month-day hour:minute:second` in UTC.
Years of more than four digits and years before the year zero carry a sign.
-/

namespace Fleet.Text

structure Date where
  year : Int
  month : Nat
  day : Nat
deriving DecidableEq, Repr, Inhabited

/-- The date so many days after 1970-01-01. Counting starts on the first of March of the year zero,
so that a leap day ends its year; four hundred years have 146097 days. -/
def dateOfDays (days : Int) : Date :=
  let z := days + 719468
  let era := z / 146097
  let dayOfEra := (z % 146097).toNat
  let yearOfEra := (dayOfEra - dayOfEra / 1460 + dayOfEra / 36524 - dayOfEra / 146096) / 365
  let dayOfYear := dayOfEra - (365 * yearOfEra + yearOfEra / 4 - yearOfEra / 100)
  let fromMarch := (5 * dayOfYear + 2) / 153
  let day := dayOfYear - (153 * fromMarch + 2) / 5 + 1
  let month := if fromMarch < 10 then fromMarch + 3 else fromMarch - 9
  ⟨era * 400 + yearOfEra + (if month ≤ 2 then 1 else 0), month, day⟩

def yearText (year : Int) : List Char :=
  if year < 0 then '-' :: padded 4 year.natAbs
  else if year > 9999 then '+' :: natDigits year.toNat
  else padded 4 year.toNat

/-- The first and the last second that have a date. -/
def minTime : Int := -8334601228800

def maxTime : Int := 8210266876799

/-- The time as a date; a number of seconds out of range stays a number. -/
def timeText (seconds : Int) : String :=
  if seconds < minTime || maxTime < seconds then intText seconds
  else
    let date := dateOfDays (seconds / 86400)
    let second := (seconds % 86400).toNat
    String.ofList (yearText date.year ++ '-' :: (padded 2 date.month ++ '-' :: (padded 2 date.day
      ++ ' ' :: (padded 2 (second / 3600) ++ ':' :: (padded 2 (second / 60 % 60)
      ++ ':' :: padded 2 (second % 60))))))

end Fleet.Text
