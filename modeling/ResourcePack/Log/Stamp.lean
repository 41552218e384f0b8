/-
  Times as they are written in a log.

  Key definitions include:
    * `ResourcePack.Log.civil`
    * `ResourcePack.Log.stamp`

  A time is a number of nanoseconds since the beginning of 1970.
  It is written as a date, a time of day with as many places as it
  needs in groups of three, and the offset of UTC.
-/

namespace ResourcePack.Log

/- The length of a year, in days. -/
def yearLength
    (year : Nat) : Nat :=
  if year % 4 = 0 && (year % 100 ≠ 0 || year % 400 = 0) then 366 else 365

/- The lengths of the months of a year, in days. -/
def monthLengths
    (year : Nat) : List Nat :=
  [31, yearLength year - 337, 31, 30, 31, 30, 31, 31, 30, 31, 30, 31]

/- The month and the day in it, from the day in a year. -/
def monthAndDay
    (day : Nat)
    (month : Nat) : List Nat → Nat × Nat
  | [] => (month, day + 1)
  | length :: rest =>
    if day < length then (month, day + 1)
    else monthAndDay (day - length) (month + 1) rest

/-
  The date of a day, counted from the first day of a year on, in a
  range of so many years.
-/
def civilFrom
    (year day : Nat) : Nat → Nat × Nat × Nat
  | 0 => (year, monthAndDay day 1 (monthLengths year))
  | years + 1 =>
    if day < yearLength year then (year, monthAndDay day 1 (monthLengths year))
    else civilFrom (year + 1) (day - yearLength year) years

/- The date of a day, counted from the beginning of 1970. -/
def civil
    (day : Nat) : Nat × Nat × Nat :=
  civilFrom 1970 day (day / 365)

/- A number in decimal, with zeros in front up to a width. -/
def padded
    (width n : Nat) : String :=
  let cs := Nat.toDigits 10 n
  String.ofList (List.replicate (width - cs.length) '0' ++ cs)

/- The fraction of a second, in three, six or nine places or none. -/
def fraction
    (nanoseconds : Nat) : String :=
  if nanoseconds = 0 then ""
  else if nanoseconds % 1000000 = 0 then "." ++ padded 3 (nanoseconds / 1000000)
  else if nanoseconds % 1000 = 0 then "." ++ padded 6 (nanoseconds / 1000)
  else "." ++ padded 9 nanoseconds

/- A time as text. -/
def stamp
    (nanoseconds : Nat) : String :=
  let seconds := nanoseconds / 1000000000
  let (year, month, day) := civil (seconds / 86400)
  let second := seconds % 86400
  padded 4 year ++ "-" ++ padded 2 month ++ "-" ++ padded 2 day ++ "T" ++
    padded 2 (second / 3600) ++ ":" ++ padded 2 (second / 60 % 60) ++ ":" ++
    padded 2 (second % 60) ++ fraction (nanoseconds % 1000000000) ++ "+00:00"

end ResourcePack.Log
