import RunTable.Number.Double
import RunTable.Number.Digits
import RunTable.Text.Pieces

/-!
Numbers in free text: digits with a point anywhere among them, an optional sign and an optional
power of ten, or a word for infinity or for no number. The number is the nearest one to the decimal.
-/

namespace RunTable.Extended

/-- The nearest number to `digits * 10 ^ exponent`. Beyond every number of its length it is
infinite, and below the smallest one it is zero, without working out the power. -/
def ofDecimal (negative : Bool) (n : Nat) (exponent : Int) : Extended :=
  let length : Int := (digits n).length
  if n = 0 ∨ length + exponent < -400 then .finite ⟨negative, 0, Double.places_pos⟩
  else if 400 < length + exponent then .infinite negative
  else if 0 ≤ exponent then ofRatio negative (n * Nat.pow 10 exponent.toNat) 1
  else ofRatio negative n (Nat.pow 10 (-exponent).toNat)

def takeSign : List Char → Bool × List Char
  | '-' :: rest => (true, rest)
  | '+' :: rest => (false, rest)
  | s => (false, s)

/-- An optional power of ten that is all of a text. -/
def power? : List Char → Option Int
  | [] => some 0
  | c :: rest =>
    if c = 'e' ∨ c = 'E' then
      let (negative, s) := takeSign rest
      match takeDigits s with
      | ([], _) => none
      | (ds, []) => some (if negative then -spelled ds else spelled ds)
      | _ => none
    else none

/-- A point and the digits after it, if there is a point. -/
def takeFraction : List Char → List Digit × List Char
  | '.' :: rest => takeDigits rest
  | s => ([], s)

/-- The number that digits without a sign spell. -/
def unsigned? (negative : Bool) (s : List Char) : Option Extended := do
  let (whole, s) := takeDigits s
  let (fraction, s) := takeFraction s
  if whole.isEmpty && fraction.isEmpty then none
  else
    let exponent ← power? s
    some (ofDecimal negative (spelled (whole ++ fraction)) (exponent - fraction.length))

/-- The number that a text spells, without blanks around it. -/
def ofText? (s : List Char) : Option Extended :=
  let (negative, rest) := takeSign s
  let word := String.ofList (Text.asciiLower rest)
  if word = "inf" ∨ word = "infinity" then some (.infinite negative)
  else if word = "nan" then some .undefined
  else unsigned? negative rest

end RunTable.Extended
