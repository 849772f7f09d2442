import RunTable.Number.Digits

/-!
Points in time as text: `YYYY-MM-DD HH:MM:SS` in universal time by the Gregorian calendar, which is
taken to hold at all times. Days are counted from the first of January of the year zero.
-/

namespace RunTable

def naturalText (n : Nat) : String := String.ofList (digitChars (digits n))

def integerText (n : Int) : String :=
  if n < 0 then "-" ++ naturalText n.natAbs else naturalText n.natAbs

/-- The text of a number with at least so many digits. -/
def paddedText (width n : Nat) : String :=
  let ds := digits n
  String.ofList (digitChars (List.replicate (width - ds.length) .zero ++ ds))

namespace Calendar

def isLeap (year : Nat) : Bool := year % 4 == 0 && (year % 100 != 0 || year % 400 == 0)

/-- The days before the first day of a year. -/
def daysBefore (year : Nat) : Nat :=
  365 * year + (year + 3) / 4 - (year + 99) / 100 + (year + 399) / 400

/-- The lengths of the months of a year. -/
def monthLengths (year : Nat) : List Nat :=
  [31, if isLeap year then 29 else 28, 31, 30, 31, 30, 31, 31, 30, 31, 30, 31]

/-- The year of a day: the mean length of a year leads to the right one or a neighbour of it. -/
def yearOf (day : Nat) : Nat :=
  let guess := day * 400 / 146097
  if day < daysBefore guess then guess - 1
  else if daysBefore (guess + 1) ≤ day then guess + 1
  else guess

/-- The number of whole months before a day of the year, and the days left over. -/
def monthAndDay : List Nat → Nat → Nat × Nat
  | [], day => (0, day)
  | length :: rest, day =>
    if day < length then (0, day)
    else
      let (month, day) := monthAndDay rest (day - length)
      (month + 1, day)

/-- A date; months and days are counted from one. -/
structure Date where
  year : Nat
  month : Nat
  day : Nat
  deriving DecidableEq

def dateOf (day : Nat) : Date :=
  let year := yearOf day
  let (month, day) := monthAndDay (monthLengths year) (day - daysBefore year)
  ⟨year, month + 1, day + 1⟩

/-- The first of January 1970. -/
def epochDay : Nat := 719528

end Calendar

/-- The text of a year: four digits, and a plus sign before more of them. -/
def yearText (year : Nat) : String :=
  if 9999 < year then "+" ++ naturalText year else paddedText 4 year

/-- The text of a second since the beginning of 1970. -/
def secondText (second : Nat) : String :=
  let date := Calendar.dateOf (Calendar.epochDay + second / 86400)
  let time := second % 86400
  yearText date.year ++ "-" ++ paddedText 2 date.month ++ "-" ++ paddedText 2 date.day ++ " " ++
    paddedText 2 (time / 3600) ++ ":" ++ paddedText 2 (time / 60 % 60) ++ ":" ++
    paddedText 2 (time % 60)

def lastDatedMillisecond : Nat := 8210266876799999

/-- The text of a time in milliseconds since the beginning of 1970: nothing up to that moment, and
the bare number where there is no date any more. -/
def timestampText (ms : Int64) : String :=
  if ms ≤ 0 then ""
  else
    let n := ms.toInt.toNat
    if n ≤ lastDatedMillisecond then secondText (n / 1000) else naturalText n

end RunTable
