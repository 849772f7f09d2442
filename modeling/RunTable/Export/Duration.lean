import RunTable.Export.Timestamp
import RunTable.Number.Double

/-!
Durations as text: milliseconds below half a second, then seconds, minutes, hours and days with one
decimal. The milliseconds are taken as a floating-point number and divided as one; the decimal is
that of the exact quotient, a tie going to the even digit.
-/

namespace RunTable

/-- A unit of time with its length in milliseconds. -/
structure TimeUnit where
  symbol : String
  milliseconds : Nat

namespace TimeUnit

def second : TimeUnit := ⟨"s", 1000⟩

def minute : TimeUnit := ⟨"min", 60 * 1000⟩

def hour : TimeUnit := ⟨"h", 60 * 60 * 1000⟩

def day : TimeUnit := ⟨"d", 24 * 60 * 60 * 1000⟩

/-- The unit for a duration, given in the smallest units of floating-point numbers: the longest
one that is not longer than the duration, but at least seconds. -/
def choose (units : Nat) : TimeUnit :=
  if units < minute.milliseconds * Double.one then second
  else if units < hour.milliseconds * Double.one then minute
  else if units < day.milliseconds * Double.one then hour
  else day

end TimeUnit

/-- A number rounded to tenths, given in smallest units. -/
def tenths (units : Nat) : Nat := roundDiv (units * 10) Double.one

/-- The text of a number with one decimal, given in tenths. -/
def tenthsText (n : Nat) : String := naturalText (n / 10) ++ "." ++ naturalText (n % 10)

def durationText (ms : Int64) : String :=
  if ms < 500 then integerText ms.toInt ++ "ms"
  else
    let units := Double.nearestUnits ms.toInt.toNat 1
    let unit := TimeUnit.choose units
    let quotient := Double.nearestUnits units (unit.milliseconds * Double.one)
    tenthsText (tenths quotient) ++ unit.symbol

end RunTable
