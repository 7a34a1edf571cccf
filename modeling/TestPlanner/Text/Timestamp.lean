/-!
# Timestamps

A moment, counted in seconds and nanoseconds from the start of 1970, as a date and a time of day in
the form of RFC 3339. Fractions of a second are written in groups of three digits, as many as are
needed.
-/

set_option autoImplicit false

namespace TestPlanner.Text.Timestamp

/-- A number in at least so many digits. -/
def padded (width n : Nat) : String :=
  let ds := (toString n).toList
  String.ofList (List.replicate (width - ds.length) '0' ++ ds)

/-- The year, month and day of a day counted from the start of 1970. Years are taken to start in
March, so that a leap day comes last. -/
def date (day : Nat) : Nat × Nat × Nat :=
  let z := day + 719468
  let era := z / 146097
  let dayOfEra := z % 146097
  let yearOfEra := (dayOfEra - dayOfEra / 1460 + dayOfEra / 36524 - dayOfEra / 146096) / 365
  let dayOfYear := dayOfEra - (365 * yearOfEra + yearOfEra / 4 - yearOfEra / 100)
  let m := (5 * dayOfYear + 2) / 153
  let month := if m < 10 then m + 3 else m - 9
  (yearOfEra + era * 400 + (if month ≤ 2 then 1 else 0), month, dayOfYear - (153 * m + 2) / 5 + 1)

/-- The fraction of a second. -/
def fraction (nanos : Nat) : String :=
  if nanos == 0 then ""
  else if nanos % 1000000 == 0 then "." ++ padded 3 (nanos / 1000000)
  else if nanos % 1000 == 0 then "." ++ padded 6 (nanos / 1000)
  else "." ++ padded 9 nanos

/-- A moment in words. -/
def format (seconds nanos : Nat) : String :=
  let (year, month, day) := date (seconds / 86400)
  let s := seconds % 86400
  padded 4 year ++ "-" ++ padded 2 month ++ "-" ++ padded 2 day ++ "T" ++
    padded 2 (s / 3600) ++ ":" ++ padded 2 (s / 60 % 60) ++ ":" ++ padded 2 (s % 60) ++
    fraction nanos ++ "+00:00"

example : format 0 0 = "1970-01-01T00:00:00+00:00" := by decide +kernel

example : format 1709210096 120000000 = "2024-02-29T12:34:56.120+00:00" := by decide +kernel

end TestPlanner.Text.Timestamp
