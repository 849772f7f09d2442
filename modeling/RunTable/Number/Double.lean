/-!
Finite binary floating-point numbers of 64 bits, as exact objects.

The non-negative ones are counted from zero upwards, each by its `place`. Below `2 ^ 53` the count
is the number itself in units of `2 ^ -1074`; from there on every run of `2 ^ 52` places doubles
the distance between neighbours (`unitsAt`). The order of places is the order of numbers, and a
quotient is rounded by finding the run it falls into and rounding in that run (`nearestPlace`).
-/

namespace RunTable

/-- A quotient rounded to the nearest natural number, a tie to the even one. -/
def roundDiv (num den : Nat) : Nat :=
  let q := num / den
  let r := num % den
  if 2 * r < den then q
  else if den < 2 * r then q + 1
  else if q % 2 = 0 then q else q + 1

/-- A quotient less its rounded value is at most one half, either way. -/
theorem roundDiv_near {num den : Nat} (h : 0 < den) :
    2 * (roundDiv num den * den) ≤ 2 * num + den ∧
      2 * num ≤ 2 * (roundDiv num den * den) + den := by
  have hd := Nat.div_add_mod' num den
  have hm := Nat.mod_lt num h
  have hs := Nat.add_one_mul (num / den) den
  simp only [roundDiv]
  split
  · omega
  · split
    · omega
    · split <;> omega

namespace Double

/-- The smallest positive number is one over this. -/
def one : Nat := Nat.pow 2 1074

/-- The length of a run of evenly spaced places. -/
def run : Nat := Nat.pow 2 52

/-- The number of places; the next one would be infinity. -/
def places : Nat := 2047 * run

theorem places_pos : 0 < places := by decide

/-- The number at a place, in units of the smallest positive number. -/
def unitsAt (place : Nat) : Nat :=
  if place < run then place else (run + place % run) * Nat.pow 2 (place / run - 1)

/-- The place nearest to a quotient, of two equally near the one with an even count in its run. -/
def nearestPlace (num den : Nat) : Nat :=
  let shift := Nat.log2 (num * one / den) - 52
  shift * run + roundDiv (num * one) (den * Nat.pow 2 shift)

/-- The number nearest to a quotient, in units of the smallest positive number. -/
def nearestUnits (num den : Nat) : Nat := unitsAt (nearestPlace num den)

end Double

/-- A finite number: a sign and the place of its magnitude. Zero has both signs. -/
structure Double where
  negative : Bool
  place : Nat
  place_lt : place < Double.places
  deriving DecidableEq

namespace Double

/-- The magnitude in units of the smallest positive number. -/
def units (d : Double) : Nat := unitsAt d.place

/-- Zero without a sign. -/
def zero : Double := ⟨false, 0, places_pos⟩

instance : Inhabited Double := ⟨zero⟩

/-- The number at a place, unless the place is beyond the largest number. -/
def atPlace? (negative : Bool) (place : Nat) : Option Double :=
  if h : place < places then some ⟨negative, place, h⟩ else none

/-- The number that stands for both zeros, and any other number for itself. -/
def unsigned (d : Double) : Double := if d.place = 0 then zero else d

/-- The nearest number to a power of ten, by its place. -/
def powerOfTen (n : Nat) : Nat := nearestPlace (Nat.pow 10 n) 1

def productPlace (a b : Nat) : Nat := nearestPlace (unitsAt a * unitsAt b) (one * one)

def quotientPlace (a b : Nat) : Nat := nearestPlace (unitsAt a) (unitsAt b)

end Double

/-- A number that may also be infinite or undefined. -/
inductive Extended where
  | finite (d : Double)
  | infinite (negative : Bool)
  | undefined
  deriving DecidableEq

namespace Extended

/-- The number at a place, infinite beyond the largest number. -/
def atPlace (negative : Bool) (place : Nat) : Extended :=
  match Double.atPlace? negative place with
  | some d => .finite d
  | none => .infinite negative

/-- The nearest number to a quotient with a sign. -/
def ofRatio (negative : Bool) (num den : Nat) : Extended :=
  atPlace negative (Double.nearestPlace num den)

def ofInt (n : Int) : Extended := ofRatio (decide (n < 0)) n.natAbs 1

/-- The position in the order of numbers, both zeros at one position; none if undefined. -/
def rank? : Extended → Option Int
  | .finite d => some (if d.negative then -d.place else d.place)
  | .infinite negative => some (if negative then -Double.places else Double.places)
  | .undefined => none

/-- The order of two numbers; an undefined one is taken as equal to any other. -/
def order (a b : Extended) : Ordering :=
  match a.rank?, b.rank? with
  | some x, some y => compare x y
  | _, _ => .eq

end Extended

end RunTable
