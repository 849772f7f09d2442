import RunTable.Number.Double
import RunTable.Number.Digits

/-!
The shortest decimal that reads back as a given number. For one digit, two digits, up to seventeen,
the two decimals with that many digits that enclose the number are tried; the first count of
digits for which one of them reads back is taken, and of two that read back the nearer.
-/

namespace RunTable.Double

/-- The place nearest to `digits * 10 ^ exponent`. -/
def decimalPlace (digits : Nat) (exponent : Int) : Nat :=
  if 0 ≤ exponent then nearestPlace (digits * Nat.pow 10 exponent.toNat) 1
  else nearestPlace digits (Nat.pow 10 (-exponent).toNat)

/-- The power of ten of the first digit of a positive number, given in smallest units. -/
def leadingPower (units : Nat) : Int :=
  (digits (units * Nat.pow 10 400 / one)).length - 401

/-- The multiple of `10 ^ exponent` at or below a number, and the rest as a ratio. -/
def onGrid (units : Nat) (exponent : Int) : Nat × Nat × Nat :=
  if 0 ≤ exponent then
    let step := one * Nat.pow 10 exponent.toNat
    (units / step, units % step, step)
  else
    let scaled := units * Nat.pow 10 (-exponent).toNat
    (scaled / one, scaled % one, one)

/-- The decimal with so many digits that reads back as the number at a place, if there is one;
of two the nearer, of two equally near the even one. The first digit counts `10 ^ leading`. -/
def decimalOfLength? (place : Nat) (leading : Int) (count : Nat) : Option (Nat × Int) :=
  let exponent := leading + 1 - count
  let (below, rest, step) := onGrid (unitsAt place) exponent
  match decimalPlace below exponent == place, decimalPlace (below + 1) exponent == place with
  | false, false => none
  | true, false => some (below, exponent)
  | false, true => some (below + 1, exponent)
  | true, true =>
    if 2 * rest < step || (2 * rest == step && below % 2 == 0) then some (below, exponent)
    else some (below + 1, exponent)

/-- The shortest decimal `digits * 10 ^ exponent` that reads back as the number at a place. -/
def shortest (place : Nat) : Nat × Int :=
  if place = 0 then (0, 0)
  else
    let leading := leadingPower (unitsAt place)
    ((List.range' 1 17).findSome? (decimalOfLength? place leading)).getD (0, 0)

/-- A number without its trailing zeros, and how many they are. -/
def stripZeros (n : Nat) : Nat × Nat :=
  if _h : 0 < n ∧ n % 10 = 0 then
    let (m, k) := stripZeros (n / 10)
    (m, k + 1)
  else (n, 0)
termination_by n

end RunTable.Double
