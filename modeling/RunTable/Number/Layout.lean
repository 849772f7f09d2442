import RunTable.Number.Numeral
import RunTable.Number.Shortest
import RunTable.Number.Width

/-!
How numbers are laid out as numerals. An integer is its digits. Any other number has the fewest
digits that read back, with a point among or beside them where the first digit counts at least
`10 ^ -5` and less than `10 ^ 16`, and with a power of ten elsewhere; a point always has a digit
on either side.
-/

namespace RunTable.Numeral

def ofInt (n : Int) : Numeral := ⟨decide (n < 0), digits n.natAbs, [], none⟩

/-- Digits with a point after the first `point` of them, filled up with zeros. -/
def positional (negative : Bool) (ds : List Digit) (point : Int) : Numeral :=
  if point ≤ 0 then ⟨negative, [.zero], List.replicate (-point).toNat .zero ++ ds, none⟩
  else if ds.length ≤ point then
    ⟨negative, ds ++ List.replicate (point - ds.length).toNat .zero, [.zero], none⟩
  else ⟨negative, ds.take point.toNat, ds.drop point.toNat, none⟩

/-- Digits with a point after the first of them, and a power of ten. -/
def scientific (negative : Bool) (ds : List Digit) (point : Int) : Numeral :=
  ⟨negative, ds.take 1, ds.drop 1, some (point - 1)⟩

/-- The numeral of a number that need not be an integer. -/
def ofDouble (d : Double) : Numeral :=
  if d.place = 0 then ⟨d.negative, [.zero], [.zero], none⟩
  else
    let (n, exponent) := Double.shortest d.place
    let (n, zeros) := Double.stripZeros n
    let ds := digits n
    let point := ds.length + (exponent + zeros)
    if -4 ≤ point ∧ point ≤ 16 then positional d.negative ds point
    else scientific d.negative ds point

/-- Takes digits while the number they spell, after `n`, fits into 64 bits. -/
def absorb (n : Nat) : List Digit → Nat × List Digit
  | [] => (n, [])
  | d :: ds => if 10 * n + d.val < wordLimit then absorb (10 * n + d.val) ds else (n, d :: ds)

/-- Divides the number at a place by a power of ten, at most `10 ^ 308` at a time. -/
def divideDown (place exponent : Nat) : Nat :=
  if exponent ≤ 308 then Double.quotientPlace place (Double.powerOfTen exponent)
  else if place = 0 then 0
  else divideDown (Double.quotientPlace place (Double.powerOfTen 308)) (exponent - 308)
termination_by exponent
decreasing_by omega

/-- The place of a significand times a power of ten, each rounded before they are put together;
none beyond the largest number. -/
def scaledPlace? (significand : Nat) (exponent : Int) : Option Nat :=
  let place := Double.nearestPlace significand 1
  if exponent < 0 then some (divideDown place (-exponent).toNat)
  else if 308 < exponent then if significand = 0 then some 0 else none
  else
    let product := Double.productPlace place (Double.powerOfTen exponent.toNat)
    if product < Double.places then some product else none

end RunTable.Numeral
