import Mathlib.Tactic.Linarith
import RunTable.Export.Duration
import RunTable.Proofs.Number.Shortest

/-! # Quotients in tenths

A quotient is rounded twice, to a number and then to tenths. Both times a larger
one is rounded to no less (`quotientTenths_mono`), and whole numbers are not
rounded at all. For integers up to `2 ^ 53` the two roundings are as good as one
(`quotientTenths_near`): a quotient that is not half way between two tenths is
further from there than from the number that it is rounded to. -/

namespace RunTable

namespace Double

variable {a b d : Nat}

theorem unitsAt_lt_succ (place : Nat) : unitsAt place < unitsAt (place + 1) := by
  obtain ⟨s, q, rfl, hq, hrun⟩ := place_cases place
  rw [Nat.add_assoc, unitsAt_mul_add (Nat.le_of_lt hq) hrun,
    unitsAt_mul_add hq (hrun.imp id Nat.le_succ_of_le)]
  exact Nat.mul_lt_mul_of_pos_right (Nat.lt_succ_self q) (Nat.two_pow_pos s)

theorem unitsAt_mono {p q : Nat} (h : p ≤ q) : unitsAt p ≤ unitsAt q :=
  (strictMono_nat_of_lt_succ unitsAt_lt_succ).monotone h

theorem nearestUnits_mono (hd : 0 < d) (h : a ≤ b) : nearestUnits a d ≤ nearestUnits b d :=
  unitsAt_mono (nearestPlace_mono hd h)

end Double

/-- The tenths of a number of smallest units, measured by a unit. -/
def quotientTenths (units unit : Nat) : Nat :=
  tenths (Double.nearestUnits units (unit * Double.one))

variable {units units' unit k n : Nat}

theorem tenths_mono (h : units ≤ units') : tenths units ≤ tenths units' :=
  roundDiv_mono Double.one_pos (Nat.mul_le_mul_right 10 h)

theorem quotientTenths_mono (hunit : 0 < unit) (h : units ≤ units') :
    quotientTenths units unit ≤ quotientTenths units' unit :=
  tenths_mono (Double.nearestUnits_mono (Nat.mul_pos hunit Double.one_pos) h)

theorem quotientTenths_mul_one (n unit : Nat) :
    quotientTenths (n * Double.one) unit = tenths (Double.nearestUnits n unit) := by
  rw [quotientTenths, Double.nearestUnits, Double.nearestPlace_mul_mul Double.one_pos,
    Double.nearestUnits]

/-- A whole number is not rounded. -/
theorem quotientTenths_whole (hunit : 0 < unit) (hk : k ≤ 2 ^ 53) :
    quotientTenths (k * unit * Double.one) unit = k * 10 := by
  have hplace : Double.nearestPlace (k * unit) unit = Double.nearestPlace k 1 := by
    rw [← Double.nearestPlace_mul_mul (a := k) (d := 1) hunit, Nat.one_mul]
  rw [quotientTenths_mul_one, Double.nearestUnits, hplace, Double.unitsAt_nearestPlace_of_le hk,
    tenths, Nat.mul_right_comm, roundDiv_mul _ Double.one_pos]

/-! ## Nearness -/

theorem five_not_dvd_two_pow (k : Nat) : ¬5 ∣ 2 ^ k := by
  induction k with
  | zero => decide
  | succ k ih =>
    rw [pow_succ]
    omega

theorem two_mul_one : 2 * Double.one = 2 ^ 1075 := by
  rw [Double.one_eq, ← pow_succ']

/-- The numbers around a quotient are so close together that half their distance is
less than one part in the divisor. -/
theorem unit_mul_gap_lt (hfive : 5 ∣ unit) (hpos : 0 < unit) (hsmall : unit ≤ 2 ^ 53)
    (hn : n ≤ 2 ^ 53) : unit * 2 ^ Double.gapPower n unit < 2 * Double.one := by
  rw [two_mul_one]
  have hle : unit * 2 ^ Double.gapPower n unit ≤ 2 ^ 1075 := by
    rcases Double.gapPower_le (a := n) hpos with hzero | hrun
    · rw [hzero, pow_zero, Nat.mul_one]
      exact Nat.le_trans hsmall (pow_le_pow_right₀ one_le_two (by decide))
    · refine Nat.le_of_mul_le_mul_left ?_ Double.run_pos
      calc Double.run * (unit * 2 ^ Double.gapPower n unit) ≤ n * Double.one := hrun
        _ ≤ 2 ^ 53 * Double.one := Nat.mul_le_mul_right _ hn
        _ = Double.run * 2 ^ 1075 := Double.exact_mul_one
  refine Nat.lt_of_le_of_ne hle fun heq => five_not_dvd_two_pow 1075 ?_
  exact heq ▸ Nat.dvd_mul_right_of_dvd hfive _

/-- A quotient of integers up to `2 ^ 53` is off by half a tenth of the unit at
most. -/
theorem quotientTenths_near (htwenty : 20 ∣ unit) (hpos : 0 < unit) (hsmall : unit ≤ 2 ^ 53)
    (hn : n ≤ 2 ^ 53) :
    2 * (quotientTenths (n * Double.one) unit * unit) ≤ 20 * n + unit ∧
      20 * n ≤ 2 * (quotientTenths (n * Double.one) unit * unit) + unit := by
  have hgap := unit_mul_gap_lt (Nat.dvd_trans (by decide) htwenty) hpos hsmall hn
  obtain ⟨hhigh, hlow⟩ := Double.nearestPlace_near (a := n) hpos
  rw [quotientTenths_mul_one]
  obtain ⟨hhigh', hlow'⟩ :=
    @roundDiv_near (Double.nearestUnits n unit * 10) Double.one Double.one_pos
  simp only [tenths, Double.nearestUnits] at hhigh' hlow' ⊢
  generalize roundDiv _ Double.one = t at hhigh' hlow' ⊢
  generalize Double.unitsAt (Double.nearestPlace n unit) = q at hhigh hlow hhigh' hlow'
  generalize 2 ^ Double.gapPower n unit = gap at hgap hhigh hlow
  have hone := Double.one_pos
  generalize Double.one = one at *
  obtain ⟨v, rfl⟩ := htwenty
  rw [Nat.mul_left_comm t 20 v]
  -- Both sides are multiples of twenty, so if one of them is too large, then by twenty.
  constructor
  · refine Nat.le_of_not_lt fun hfar => ?_
    have hstep : 20 * n + 20 * v + 20 ≤ 2 * (20 * (t * v)) := by omega
    have hscaled := Nat.mul_le_mul_right one hstep
    have hrounded := Nat.mul_le_mul_right (20 * v) hhigh'
    linarith
  · refine Nat.le_of_not_lt fun hfar => ?_
    have hstep : 2 * (20 * (t * v)) + 20 * v + 20 ≤ 20 * n := by omega
    have hscaled := Nat.mul_le_mul_right one hstep
    have hrounded := Nat.mul_le_mul_right (20 * v) hlow'
    linarith

end RunTable
