/-!
# Instants

Messages are stamped with the second in which they arrive, counted from the start of
1970 in universal time. How an instant is written is a parameter of the outputs that
show one (`Maildrop.TimeStyle`); `Maildrop.TimeStyle.calendar` is the civil calendar.
-/

namespace Maildrop

/-- **An instant**, in seconds since the start of 1970. -/
abbrev Instant := Nat

/-- **How instants are written.** -/
structure TimeStyle where
  /-- In a listing. -/
  brief : Instant → String
  /-- Where an instant stands by itself. -/
  full : Instant → String
  /-- In JSON. -/
  stamp : Instant → String

/-- A number with zeros in front up to a number of digits. -/
def padNumber (width n : Nat) : String :=
  let digits := Nat.toDigits 10 n
  String.ofList (List.replicate (width - digits.length) '0' ++ digits)

/-- Year, month and day of a day counted from the start of 1970. The count is moved to
the start of March of the year 0, so that leap days end years, and then cut into cycles
of 400, 100, 4 and 1 years and months. -/
def civilDate (day : Nat) : Nat × Nat × Nat :=
  let z := day + 719468
  let cycle := z / 146097
  let dayOfCycle := z % 146097
  let yearOfCycle :=
    (dayOfCycle - dayOfCycle / 1460 + dayOfCycle / 36524 - dayOfCycle / 146096) / 365
  let dayOfYear := dayOfCycle - (365 * yearOfCycle + yearOfCycle / 4 - yearOfCycle / 100)
  let month := (5 * dayOfYear + 2) / 153
  let dayOfMonth := dayOfYear - (153 * month + 2) / 5 + 1
  let year := yearOfCycle + cycle * 400
  if month < 10 then (year, month + 3, dayOfMonth) else (year + 1, month - 9, dayOfMonth)

/-- The date of an instant, as year, month and day with hyphens. -/
def Instant.date (t : Instant) : String :=
  let (y, m, d) := civilDate (t / 86400)
  padNumber 4 y ++ "-" ++ padNumber 2 m ++ "-" ++ padNumber 2 d

/-- The time of day of an instant, as hours, minutes and seconds with colons. -/
def Instant.timeOfDay (t : Instant) : String :=
  padNumber 2 (t / 3600 % 24) ++ ":" ++ padNumber 2 (t / 60 % 60) ++ ":" ++ padNumber 2 (t % 60)

/-- Dates of the civil calendar, in universal time. -/
def TimeStyle.calendar : TimeStyle where
  brief t := Instant.date t ++ " " ++ Instant.timeOfDay t
  full t := Instant.date t ++ "T" ++ Instant.timeOfDay t ++ "+00:00"
  stamp t := Instant.date t ++ "T" ++ Instant.timeOfDay t ++ "Z"

end Maildrop
