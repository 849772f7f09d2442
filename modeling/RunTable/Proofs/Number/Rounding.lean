import Mathlib.Algebra.Order.Ring.Nat
import RunTable.Number.Double
import RunTable.Number.Width

/-! # Rounding to the nearest number

A quotient lies in a run of places whose numbers are `2 ^ gapPower` smallest
units apart, and is rounded to a multiple of that distance
(`unitsAt_nearestPlace`). So a number is never further from its quotient than
half the distance, a larger quotient is never rounded to an earlier place
(`nearestPlace_mono`), and an integer of at most `2 ^ 53` is hit exactly. -/

namespace RunTable

theorem roundDiv_mul (q : Nat) {den : Nat} (hden : 0 < den) : roundDiv (q * den) den = q := by
  simp [roundDiv, hden]

theorem roundDiv_mono {num num' den : Nat} (hden : 0 < den) (h : num ≤ num') :
    roundDiv num den ≤ roundDiv num' den := by
  obtain ⟨hfar, _⟩ := @roundDiv_near num den hden
  obtain ⟨_, hnear⟩ := @roundDiv_near num' den hden
  refine Nat.le_of_not_lt fun hlt => ?_
  have hstep := Nat.mul_le_mul_right den (Nat.succ_le_of_lt hlt)
  rw [Nat.succ_mul] at hstep
  have heq : num = num' := by omega
  rw [heq] at hlt
  exact Nat.lt_irrefl _ hlt

namespace Double

/-- The numbers around a quotient are two to this power apart, in smallest units. -/
def gapPower (a d : Nat) : Nat := Nat.log2 (a * one / d) - 52

/-- The multiple of that distance to which a quotient is rounded. -/
def significand (a d : Nat) : Nat := roundDiv (a * one) (d * 2 ^ gapPower a d)

theorem nearestPlace_eq (a d : Nat) :
    nearestPlace a d = gapPower a d * run + significand a d := rfl

theorem run_pos : 0 < run := by decide

variable {a b d : Nat}

theorem lt_gapPower (hd : 0 < d) : a * one < 2 * run * (d * 2 ^ gapPower a d) := by
  have hlog : a * one / d < 2 ^ (gapPower a d + 53) := by
    refine Nat.lt_of_lt_of_le Nat.lt_log2_self (Nat.pow_le_pow_right (by decide) ?_)
    unfold gapPower
    omega
  rw [Nat.div_lt_iff_lt_mul hd, Nat.pow_add] at hlog
  calc a * one < 2 ^ gapPower a d * 2 ^ 53 * d := hlog
    _ = 2 * run * (d * 2 ^ gapPower a d) := by
      rw [show (2 : Nat) ^ 53 = 2 * run from rfl]
      ac_rfl

theorem gapPower_le (hd : 0 < d) :
    gapPower a d = 0 ∨ run * (d * 2 ^ gapPower a d) ≤ a * one := by
  by_cases hgap : gapPower a d = 0
  · exact Or.inl hgap
  · right
    have hlog : Nat.log2 (a * one / d) = gapPower a d + 52 := by
      unfold gapPower at hgap ⊢
      omega
    have hne : a * one / d ≠ 0 := by
      intro hzero
      rw [hzero] at hlog
      simp at hlog
    have hle := Nat.log2_self_le hne
    rw [hlog, Nat.le_div_iff_mul_le hd, Nat.pow_add] at hle
    calc run * (d * 2 ^ gapPower a d) = 2 ^ gapPower a d * run * d := by ac_rfl
      _ ≤ a * one := hle

theorem gap_pos (hd : 0 < d) : 0 < d * 2 ^ gapPower a d :=
  Nat.mul_pos hd (Nat.two_pow_pos _)

theorem significand_le (hd : 0 < d) : significand a d ≤ 2 * run := by
  rw [← roundDiv_mul (2 * run) (gap_pos (a := a) hd)]
  exact roundDiv_mono (gap_pos hd) (Nat.le_of_lt (lt_gapPower hd))

theorem le_significand (hd : 0 < d) :
    gapPower a d = 0 ∨ run ≤ significand a d := by
  refine (gapPower_le hd).imp id fun h => ?_
  rw [← roundDiv_mul run (gap_pos (a := a) hd)]
  exact roundDiv_mono (gap_pos hd) h

/-- Beyond the first run, the numbers of each run are twice as far apart as those
of the run before. -/
theorem unitsAt_succ_mul (k : Nat) {r : Nat} (hr : r < run) :
    unitsAt ((k + 1) * run + r) = (run + r) * 2 ^ k := by
  have hlarge : ¬(k + 1) * run + r < run := by
    rw [Nat.succ_mul]
    omega
  have hdiv : ((k + 1) * run + r) / run = k + 1 := by
    rw [Nat.add_comm, Nat.add_mul_div_right _ _ run_pos, Nat.div_eq_of_lt hr, Nat.zero_add]
  have hmod : ((k + 1) * run + r) % run = r := by
    rw [Nat.add_comm, Nat.add_mul_mod_self_right, Nat.mod_eq_of_lt hr]
  rw [unitsAt, if_neg hlarge, hdiv, hmod, Nat.add_sub_cancel]
  rfl

theorem unitsAt_mul_add {shift q : Nat} (hq : q ≤ 2 * run) (h : shift = 0 ∨ run ≤ q) :
    unitsAt (shift * run + q) = q * 2 ^ shift := by
  by_cases hsmall : q < run
  · obtain rfl := h.resolve_right (Nat.not_le.mpr hsmall)
    simp [unitsAt, hsmall]
  · obtain ⟨r, rfl⟩ := Nat.exists_eq_add_of_le (Nat.not_lt.mp hsmall)
    by_cases hr : r < run
    · rw [← Nat.add_assoc, ← Nat.succ_mul]
      exact unitsAt_succ_mul shift hr
    · -- The end of a run is the beginning of the next.
      have hr : r = run := by omega
      have hend := unitsAt_succ_mul (shift + 1) run_pos
      rw [hr, ← Nat.two_mul, ← Nat.add_mul]
      rw [Nat.add_zero, Nat.add_zero, Nat.pow_succ] at hend
      rw [hend]
      ac_rfl

/-- The rounded quotient in smallest units. -/
theorem unitsAt_nearestPlace (hd : 0 < d) :
    unitsAt (nearestPlace a d) = significand a d * 2 ^ gapPower a d := by
  rw [nearestPlace_eq]
  exact unitsAt_mul_add (significand_le hd) (le_significand hd)

/-- A rounded quotient is off by half the distance of the numbers at most. -/
theorem nearestPlace_near (hd : 0 < d) :
    2 * (unitsAt (nearestPlace a d) * d) ≤ 2 * (a * one) + d * 2 ^ gapPower a d ∧
      2 * (a * one) ≤
        2 * (unitsAt (nearestPlace a d) * d) + d * 2 ^ gapPower a d := by
  have hnear := @roundDiv_near (a * one) _ (gap_pos (a := a) hd)
  have hunits : unitsAt (nearestPlace a d) * d =
      significand a d * (d * 2 ^ gapPower a d) := by
    rw [unitsAt_nearestPlace hd]
    ac_rfl
  rw [hunits]
  exact hnear

theorem gapPower_mono (h : a ≤ b) : gapPower a d ≤ gapPower b d := by
  have hquot : a * one / d ≤ b * one / d :=
    Nat.div_le_div_right (Nat.mul_le_mul_right one h)
  refine Nat.sub_le_sub_right ?_ 52
  by_cases hzero : a * one / d = 0
  · simp [hzero]
  · have hzero' : b * one / d ≠ 0 := fun hz => hzero (Nat.le_zero.mp (hz ▸ hquot))
    exact (Nat.le_log2 hzero').mpr (Nat.le_trans (Nat.log2_self_le hzero) hquot)

/-- A larger quotient is not rounded to an earlier place. -/
theorem nearestPlace_mono (hd : 0 < d) (h : a ≤ b) :
    nearestPlace a d ≤ nearestPlace b d := by
  rw [nearestPlace_eq, nearestPlace_eq]
  rcases Nat.lt_or_eq_of_le (gapPower_mono (d := d) h) with hlt | heq
  · -- A quotient in a later run is rounded up to the end of the earlier one at least.
    have hrun : run ≤ significand b d :=
      (le_significand hd).resolve_left (Nat.ne_zero_of_lt hlt)
    have hle := significand_le (a := a) hd
    have hstep := Nat.mul_le_mul_right run (Nat.succ_le_of_lt hlt)
    rw [Nat.succ_mul] at hstep
    omega
  · have hle : significand a d ≤ significand b d := by
      unfold significand
      rw [heq]
      exact roundDiv_mono (gap_pos hd) (Nat.mul_le_mul_right one h)
    rw [heq]
    exact Nat.add_le_add_left hle _

/-! ## Integers -/

variable {m n : Nat}

theorem one_eq : one = 2 ^ 1074 := by
  unfold one
  generalize 1074 = power
  rfl

theorem one_pos : 0 < one := by
  rw [one_eq]
  exact pow_pos two_pos 1074

theorem exact_mul_one : 2 ^ 53 * one = run * 2 ^ 1075 := by
  have hrun : run = 2 ^ 52 := rfl
  rw [one_eq, hrun, ← pow_add, ← pow_add]

theorem gap_dvd_of_le (h : n ≤ 2 ^ 53) : 2 ^ gapPower n 1 ∣ n * one := by
  rcases Nat.lt_or_ge (gapPower n 1) 1075 with hgap | hgap
  · rw [one_eq]
    exact Nat.dvd_mul_left_of_dvd (pow_dvd_pow 2 (Nat.le_of_lt_succ hgap)) n
  · -- Only the largest of these integers has numbers around it that are two apart.
    have hlower : run * 2 ^ gapPower n 1 ≤ n * one := by
      have hle := (gapPower_le (a := n) Nat.one_pos).resolve_left (Nat.ne_zero_of_lt hgap)
      rwa [Nat.one_mul] at hle
    have hpow : 2 ^ 1075 ≤ 2 ^ gapPower n 1 := pow_le_pow_right₀ one_le_two hgap
    have hupper : n * one ≤ run * 2 ^ gapPower n 1 :=
      calc n * one ≤ 2 ^ 53 * one := Nat.mul_le_mul_right one h
        _ = run * 2 ^ 1075 := exact_mul_one
        _ ≤ run * 2 ^ gapPower n 1 := Nat.mul_le_mul_left run hpow
    rw [Nat.le_antisymm hupper hlower]
    exact Nat.dvd_mul_left _ _

/-- An integer of at most `2 ^ 53` is not rounded. -/
theorem unitsAt_nearestPlace_of_le (h : n ≤ 2 ^ 53) : unitsAt (nearestPlace n 1) = n * one := by
  obtain ⟨k, hk⟩ := gap_dvd_of_le h
  have hround : roundDiv (n * one) (2 ^ gapPower n 1) = k := by
    rw [hk, Nat.mul_comm, roundDiv_mul k (Nat.two_pow_pos _)]
  rw [unitsAt_nearestPlace Nat.one_pos, significand, Nat.one_mul, hround, hk, Nat.mul_comm]

/-- Integers at one place are at most one part in `2 ^ 52` apart. -/
theorem sub_mul_run_le (hle : m ≤ n) (h : nearestPlace m 1 = nearestPlace n 1) :
    (n - m) * run ≤ n := by
  have hm := (nearestPlace_near (a := m) Nat.one_pos).1
  have hn := (nearestPlace_near (a := n) Nat.one_pos).2
  have hgap := Nat.pow_le_pow_right Nat.two_pos (gapPower_mono (d := 1) hle)
  rw [h] at hm
  have hsub : (n - m) * one ≤ 2 ^ gapPower n 1 := by
    rw [Nat.sub_mul]
    omega
  rcases gapPower_le (a := n) Nat.one_pos with hzero | hrun
  · have hone : (n - m) * one < 1 * one := by
      refine Nat.lt_of_le_of_lt hsub ?_
      rw [hzero, Nat.one_mul, one_eq]
      exact pow_lt_pow_right₀ one_lt_two (by decide)
    have hsame : n - m = 0 := Nat.lt_one_iff.mp (Nat.lt_of_mul_lt_mul_right hone)
    rw [hsame, Nat.zero_mul]
    exact Nat.zero_le n
  · refine Nat.le_of_mul_le_mul_right ?_ one_pos
    calc (n - m) * run * one = run * ((n - m) * one) := by
          rw [Nat.mul_comm (n - m) run, Nat.mul_assoc]
      _ ≤ run * (1 * 2 ^ gapPower n 1) := by
        rw [Nat.one_mul]
        exact Nat.mul_le_mul_left run hsub
      _ ≤ n * one := hrun

theorem eq_or_close_of_nearestPlace_eq (hle : m ≤ n) (h : nearestPlace m 1 = nearestPlace n 1) :
    m = n ∨ 2 ^ 53 ≤ m ∧ (n - m) * 2 ^ 52 ≤ n := by
  rcases Nat.lt_or_ge m (2 ^ 53) with hm | hm
  · left
    -- All integers from the one to the other are at their place, among them one that is exact.
    let k := min n (2 ^ 53)
    have hmk : m ≤ k := Nat.le_min.mpr ⟨hle, Nat.le_of_lt hm⟩
    have hplace : nearestPlace m 1 = nearestPlace k 1 := by
      refine Nat.le_antisymm (nearestPlace_mono Nat.one_pos hmk) ?_
      rw [h]
      exact nearestPlace_mono Nat.one_pos (Nat.min_le_left _ _)
    have hunits := congrArg unitsAt hplace
    rw [unitsAt_nearestPlace_of_le (Nat.le_of_lt hm),
      unitsAt_nearestPlace_of_le (Nat.min_le_right n (2 ^ 53))] at hunits
    have hmk := Nat.eq_of_mul_eq_mul_right one_pos hunits
    omega
  · exact Or.inr ⟨hm, sub_mul_run_le hle h⟩

theorem nearestPlace_lt_places (h : n < wordLimit) : nearestPlace n 1 < places := by
  have hword : gapPower wordLimit 1 = 1086 := by
    have hlimit : wordLimit = 2 ^ 64 := rfl
    rw [gapPower, hlimit, one_eq, Nat.div_one, ← pow_add, Nat.log2_two_pow]
  have hgap : gapPower n 1 * run ≤ 1086 * run :=
    Nat.mul_le_mul_right run (hword ▸ gapPower_mono (Nat.le_of_lt h))
  have hsignificand := significand_le (a := n) Nat.one_pos
  have hrun := run_pos
  rw [nearestPlace_eq, places]
  omega

/-- The position of the number nearest to an integer in the order of numbers. -/
def signedPlace (n : Int) : Int :=
  if n < 0 then -(nearestPlace n.natAbs 1) else nearestPlace n.natAbs 1

theorem signedPlace_mono {m n : Int} (h : m ≤ n) : signedPlace m ≤ signedPlace n := by
  unfold signedPlace
  split
  · split
    · have hplace : nearestPlace n.natAbs 1 ≤ nearestPlace m.natAbs 1 :=
        nearestPlace_mono Nat.one_pos (by omega)
      omega
    · omega
  · have hplace : nearestPlace m.natAbs 1 ≤ nearestPlace n.natAbs 1 :=
      nearestPlace_mono Nat.one_pos (by omega)
    split <;> omega

end Double

namespace Extended

variable {m n : Int}

theorem atPlace_of_lt (negative : Bool) {place : Nat} (h : place < Double.places) :
    atPlace negative place = .finite ⟨negative, place, h⟩ := by
  rw [atPlace, Double.atPlace?, dif_pos h]

theorem ofInt_eq (h : n.natAbs < wordLimit) :
    ofInt n = .finite ⟨decide (n < 0), Double.nearestPlace n.natAbs 1,
      Double.nearestPlace_lt_places h⟩ :=
  atPlace_of_lt (decide (n < 0)) (Double.nearestPlace_lt_places h)

theorem rank?_ofInt (h : n.natAbs < wordLimit) :
    (ofInt n).rank? = some (Double.signedPlace n) := by
  rw [ofInt_eq h, Double.signedPlace]
  by_cases hn : n < 0 <;> simp [rank?, hn]

theorem nearestPlace_pos {k : Nat} (h : 0 < k) : 0 < Double.nearestPlace k 1 := by
  have hone := Double.unitsAt_nearestPlace_of_le (n := 1) (by decide)
  refine Nat.lt_of_lt_of_le (Nat.pos_of_ne_zero fun hzero => ?_)
    (Double.nearestPlace_mono Nat.one_pos h)
  rw [hzero, Nat.one_mul] at hone
  exact Nat.ne_of_lt Double.one_pos hone

/-- Two integers at one position have one nearest number. -/
theorem ofInt_eq_of_signedPlace (hm : m.natAbs < wordLimit) (hn : n.natAbs < wordLimit)
    (h : Double.signedPlace m = Double.signedPlace n) : ofInt m = ofInt n := by
  have hmpos : m < 0 → 0 < Double.nearestPlace m.natAbs 1 := fun h =>
    nearestPlace_pos (Int.natAbs_pos.mpr (Int.ne_of_lt h))
  have hnpos : n < 0 → 0 < Double.nearestPlace n.natAbs 1 := fun h =>
    nearestPlace_pos (Int.natAbs_pos.mpr (Int.ne_of_lt h))
  have hsame : (m < 0 ↔ n < 0) ∧
      Double.nearestPlace m.natAbs 1 = Double.nearestPlace n.natAbs 1 := by
    unfold Double.signedPlace at h
    split at h <;> split at h <;> omega
  rw [ofInt_eq hm, ofInt_eq hn]
  simp only [finite.injEq, Double.mk.injEq, decide_eq_decide]
  exact hsame

/-- Two integers with one nearest number are equal, or they are large and close
together. -/
theorem eq_or_close_of_ofInt_eq (hm : m.natAbs < wordLimit) (hn : n.natAbs < wordLimit)
    (h : ofInt m = ofInt n) :
    m = n ∨ 2 ^ 53 ≤ m.natAbs ∧ 2 ^ 53 ≤ n.natAbs ∧
      (m - n).natAbs * 2 ^ 52 ≤ max m.natAbs n.natAbs := by
  rw [ofInt_eq hm, ofInt_eq hn] at h
  simp only [finite.injEq, Double.mk.injEq, decide_eq_decide] at h
  obtain ⟨hsign, hplace⟩ := h
  rcases Nat.le_total m.natAbs n.natAbs with hle | hle
  · rw [Nat.max_eq_right hle]
    have hclose := Double.eq_or_close_of_nearestPlace_eq hle hplace
    omega
  · rw [Nat.max_eq_left hle]
    have hclose := Double.eq_or_close_of_nearestPlace_eq hle hplace.symm
    omega

end Extended

end RunTable
