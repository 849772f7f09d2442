import RunTable.Proofs.Json.Numerals
import RunTable.Proofs.Number.Rounding

/-! # The digits of a number tell it apart

Seventeen digits are enough for every number: multiples of the power of ten that
the seventeenth digit counts are closer together than numbers are, so the one
nearest to a number is rounded back to it (`decimalPlace_shortest`). However the
digits are laid out, they write the same decimal. So rounding once what a numeral
writes gives the number back (`Numeral.place_ofDouble`), and no two numbers have
one numeral. -/

namespace RunTable

section Digits

theorem ten_pow_pos (n : Nat) : 0 < 10 ^ n := Nat.pow_pos (by decide)

theorem pow_length_digits_le {n : Nat} (h : 0 < n) : 10 ^ (digits n).length ≤ 10 * n := by
  induction n using Nat.strongRecOn with
  | ind n ih =>
    rw [digits]
    split
    · rw [List.length_singleton]
      omega
    · next hn =>
      have hrest := ih (n / 10) (by omega) (by omega)
      rw [List.length_append, List.length_singleton, Nat.pow_succ]
      omega

theorem foldl_spelled (n : Nat) (ds : List Digit) :
    ds.foldl (fun n d => 10 * n + d.val) n = n * 10 ^ ds.length + spelled ds := by
  induction ds generalizing n with
  | nil => simp [spelled]
  | cons d ds ih =>
    rw [spelled, List.foldl_cons, List.foldl_cons, ih, ih, List.length_cons, Nat.pow_succ]
    rw [Nat.mul_zero, Nat.zero_add, Nat.add_mul, Nat.add_assoc]
    congr 1
    ac_rfl

theorem spelled_append_list (as bs : List Digit) :
    spelled (as ++ bs) = spelled as * 10 ^ bs.length + spelled bs := by
  rw [spelled, List.foldl_append, foldl_spelled]
  rfl

theorem spelled_zeros (n : Nat) : spelled (List.replicate n Digit.zero) = 0 := by
  induction n with
  | zero => rfl
  | succ n ih =>
    rw [List.replicate_succ', spelled_append, ih]
    rfl

end Digits

section Scaling

variable {a d k : Nat}

theorem roundDiv_mul_mul (hk : 0 < k) : roundDiv (a * k) (d * k) = roundDiv a d := by
  have hlt : 2 * (a % d * k) < d * k ↔ 2 * (a % d) < d := by
    rw [← Nat.mul_assoc]
    exact Nat.mul_lt_mul_right hk
  have hgt : d * k < 2 * (a % d * k) ↔ d < 2 * (a % d) := by
    rw [← Nat.mul_assoc]
    exact Nat.mul_lt_mul_right hk
  simp only [roundDiv, Nat.mul_div_mul_right _ _ hk, Nat.mul_mod_mul_right, hlt, hgt]

/-- A quotient that is less than one half from a number is rounded to it. -/
theorem roundDiv_eq {q : Nat} (hd : 0 < d) (hbelow : 2 * (q * d) < 2 * a + d)
    (habove : 2 * a < 2 * (q * d) + d) : roundDiv a d = q := by
  obtain ⟨hhigh, hlow⟩ := @roundDiv_near a d hd
  have hle : roundDiv a d < q + 1 := by
    refine Nat.lt_of_mul_lt_mul_right (a := d) ?_
    rw [Nat.succ_mul]
    omega
  have hge : q < roundDiv a d + 1 := by
    refine Nat.lt_of_mul_lt_mul_right (a := d) ?_
    rw [Nat.succ_mul]
    omega
  omega

end Scaling

namespace Double

variable {a d k place : Nat} {e : Int}

/-! ## Rounding back -/

/-- Rounding looks at the quotient only. -/
theorem nearestPlace_mul_mul (hk : 0 < k) : nearestPlace (a * k) (d * k) = nearestPlace a d := by
  unfold nearestPlace
  rw [Nat.mul_right_comm a k, Nat.mul_div_mul_right _ _ hk]
  dsimp only
  rw [Nat.mul_right_comm d k, roundDiv_mul_mul hk]

theorem gapPower_eq {s : Nat} (hd : 0 < d) (hlow : s = 0 ∨ run * (d * 2 ^ s) ≤ a * one)
    (hhigh : a * one < 2 * run * (d * 2 ^ s)) : gapPower a d = s := by
  have hlt : a * one / d < 2 ^ (s + 53) := by
    rw [Nat.div_lt_iff_lt_mul hd]
    calc a * one < 2 * run * (d * 2 ^ s) := hhigh
      _ = 2 ^ (s + 53) * d := by
        rw [Nat.pow_add, show 2 * run = 2 ^ 53 from rfl]
        ac_rfl
  have hle : s = 0 ∨ 2 ^ (s + 52) ≤ a * one / d := by
    refine hlow.imp id fun hlow => ?_
    rw [Nat.le_div_iff_mul_le hd]
    calc 2 ^ (s + 52) * d = run * (d * 2 ^ s) := by
          rw [Nat.pow_add, show run = 2 ^ 52 from rfl]
          ac_rfl
      _ ≤ a * one := hlow
  unfold gapPower
  rcases hle with rfl | hle
  · by_cases hzero : a * one / d = 0
    · rw [hzero]
      rfl
    · have hlog := (Nat.log2_lt hzero).mpr hlt
      omega
  · have hne : a * one / d ≠ 0 := Nat.ne_zero_of_lt (Nat.lt_of_lt_of_le (Nat.two_pow_pos _) hle)
    have hlog := (Nat.log2_lt hne).mpr hlt
    have hlog' := (Nat.le_log2 hne).mpr hle
    omega

theorem nearestPlace_eq_of_round {s q : Nat} (hd : 0 < d)
    (hlow : s = 0 ∨ run * (d * 2 ^ s) ≤ a * one) (hhigh : a * one < 2 * run * (d * 2 ^ s))
    (hround : roundDiv (a * one) (d * 2 ^ s) = q) : nearestPlace a d = s * run + q := by
  rw [nearestPlace_eq, significand, gapPower_eq hd hlow hhigh, hround]

/-- The run of a place, and the count of its number in that run. -/
theorem place_cases (place : Nat) :
    ∃ s q, place = s * run + q ∧ q < 2 * run ∧ (s = 0 ∨ run ≤ q) := by
  have hmod := Nat.mod_lt place run_pos
  have hdiv := Nat.div_add_mod' place run
  rcases Nat.eq_zero_or_pos (place / run) with hzero | hpos
  · rw [hzero, Nat.zero_mul] at hdiv
    exact ⟨0, place % run, by omega, by omega, Or.inl rfl⟩
  · obtain ⟨s, hs⟩ := Nat.exists_eq_add_of_lt hpos
    rw [Nat.zero_add] at hs
    rw [hs, Nat.succ_mul] at hdiv
    exact ⟨s, run + place % run, by omega, by omega, Or.inr (by omega)⟩

/-- A quotient is rounded to a number that it is near to. The measure of nearness
is a step of which the number has as many as there are decimals of 17 digits. -/
theorem nearestPlace_eq_of_near {step : Nat} (hd : 0 < d)
    (habove : 2 * (a * one) ≤ 2 * (unitsAt place * d) + step)
    (hbelow : 2 * (unitsAt place * d) ≤ 2 * (a * one) + step)
    (hfine : 10 ^ 16 * step ≤ unitsAt place * d) (hstep : 0 < step) :
    nearestPlace a d = place := by
  obtain ⟨s, q, rfl, hq, hrun⟩ := place_cases place
  have hunits : unitsAt (s * run + q) * d = q * (d * 2 ^ s) := by
    rw [unitsAt_mul_add (Nat.le_of_lt hq) hrun]
    ac_rfl
  rw [hunits] at habove hbelow hfine
  have hgap : 0 < d * 2 ^ s := Nat.mul_pos hd (Nat.two_pow_pos s)
  have hend : q * (d * 2 ^ s) + d * 2 ^ s ≤ 2 * run * (d * 2 ^ s) := by
    rw [← Nat.succ_mul]
    exact Nat.mul_le_mul_right _ hq
  by_cases hedge : q = run ∧ s ≠ 0 ∧ a * one < run * (d * 2 ^ s)
  · -- Below the first number of a run the numbers are half as far apart.
    obtain ⟨rfl, hs, hlt⟩ := hedge
    obtain ⟨t, rfl⟩ : ∃ t, s = t + 1 := ⟨s - 1, by omega⟩
    have hhalf : run * (d * 2 ^ (t + 1)) = 2 * run * (d * 2 ^ t) := by
      rw [Nat.pow_succ]
      ac_rfl
    rw [hhalf] at habove hbelow hfine hlt
    have hclose : step < d * 2 ^ t := by
      have hsize : 2 * run * (d * 2 ^ t) < 10 ^ 16 * (d * 2 ^ t) :=
        Nat.mul_lt_mul_of_pos_right (by decide) (Nat.mul_pos hd (Nat.two_pow_pos t))
      omega
    have hlow : run * (d * 2 ^ t) + d * 2 ^ t ≤ 2 * run * (d * 2 ^ t) := by
      rw [← Nat.succ_mul]
      exact Nat.mul_le_mul_right _ (by decide)
    have hround : roundDiv (a * one) (d * 2 ^ t) = 2 * run :=
      roundDiv_eq (by omega) (by omega) (by omega)
    rw [nearestPlace_eq_of_round hd (Or.inr (by omega)) hlt hround, Nat.succ_mul t]
    omega
  · have hclose : step < d * 2 ^ s := by
      have hsize : 2 * run * (d * 2 ^ s) < 10 ^ 16 * (d * 2 ^ s) :=
        Nat.mul_lt_mul_of_pos_right (by decide) hgap
      omega
    have hlow : s = 0 ∨ run * (d * 2 ^ s) ≤ a * one := by
      refine or_iff_not_imp_left.mpr fun hs => ?_
      rcases Nat.eq_or_lt_of_le (hrun.resolve_left hs) with heq | hlt
      · exact Nat.not_lt.mp fun hlt => hedge ⟨heq.symm, hs, hlt⟩
      · have hnext : run * (d * 2 ^ s) + d * 2 ^ s ≤ q * (d * 2 ^ s) := by
          rw [← Nat.succ_mul]
          exact Nat.mul_le_mul_right _ hlt
        omega
    exact nearestPlace_eq_of_round hd hlow (by omega) (roundDiv_eq hgap (by omega) (by omega))

/-! ## Seventeen digits -/

theorem decimalPlace_eq {n x y : Nat} (h : e = x - y) :
    decimalPlace n e = nearestPlace (n * 10 ^ x) (10 ^ y) := by
  unfold decimalPlace
  split
  · obtain ⟨z, hz⟩ : ∃ z, x = z + y := ⟨x - y, by omega⟩
    have hexponent : e.toNat = z := by omega
    calc nearestPlace (n * 10 ^ e.toNat) 1
      _ = nearestPlace (n * 10 ^ z * 10 ^ y) (1 * 10 ^ y) := by
        rw [hexponent, nearestPlace_mul_mul (ten_pow_pos _)]
      _ = nearestPlace (n * 10 ^ x) (10 ^ y) := by
        rw [hz, Nat.pow_add, Nat.mul_assoc, Nat.one_mul]
  · obtain ⟨z, hz⟩ : ∃ z, y = z + x := ⟨y - x, by omega⟩
    have hexponent : (-e).toNat = z := by omega
    calc nearestPlace n (10 ^ (-e).toNat)
      _ = nearestPlace (n * 10 ^ x) (10 ^ z * 10 ^ x) := by
        rw [hexponent, nearestPlace_mul_mul (ten_pow_pos _)]
      _ = nearestPlace (n * 10 ^ x) (10 ^ y) := by rw [hz, Nat.pow_add]

/-- Zeros at the end of the digits count as a power of ten. -/
theorem decimalPlace_mul_pow (n : Nat) (e : Int) :
    decimalPlace (n * 10 ^ k) e = decimalPlace n (e + k) := by
  have hleft : e = e.toNat - (-e).toNat := by omega
  have hright : e + k = (e.toNat + k : Nat) - (-e).toNat := by omega
  rw [decimalPlace_eq hleft, decimalPlace_eq hright, Nat.mul_assoc, ← Nat.pow_add,
    Nat.add_comm k]

theorem unitsAt_pos (h : place ≠ 0) : 0 < unitsAt place := by
  obtain ⟨s, q, rfl, hq, hrun⟩ := place_cases place
  rw [unitsAt_mul_add (Nat.le_of_lt hq) hrun]
  refine Nat.mul_pos (Nat.pos_of_ne_zero fun hzero => ?_) (Nat.two_pow_pos s)
  rcases hrun with rfl | hrun
  · exact h (by omega)
  · exact absurd (hzero ▸ hrun) (by decide)

theorem pow_length_digits_mul_one_le {units n : Nat} (h : one ≤ units * 10 ^ n) :
    10 ^ (digits (units * 10 ^ n / one)).length * one ≤ 10 ^ (n + 1) * units :=
  calc 10 ^ (digits (units * 10 ^ n / one)).length * one
    _ ≤ 10 * (units * 10 ^ n / one) * one :=
      Nat.mul_le_mul_right one (pow_length_digits_le (Nat.div_pos h one_pos))
    _ ≤ 10 * (units * 10 ^ n) := by
      rw [Nat.mul_assoc]
      exact Nat.mul_le_mul_left 10 (Nat.div_mul_le_self _ _)
    _ = 10 ^ (n + 1) * units := by
      rw [Nat.pow_succ]
      ac_rfl

/-- The power of ten of the seventeenth digit is small against the number. -/
theorem step_le {units : Nat} (h : 0 < units) (he : e = leadingPower units + 1 - 17) :
    10 ^ 16 * (10 ^ e.toNat * one) ≤ units * 10 ^ (-e).toNat := by
  have hscale : one ≤ 10 ^ 400 := by
    rw [one_eq]
    calc 2 ^ 1074 ≤ 2 ^ (3 * 400) := pow_le_pow_right₀ one_le_two (by decide)
      _ = (2 ^ 3) ^ 400 := pow_mul 2 3 400
      _ ≤ 10 ^ 400 := pow_le_pow_left₀ (Nat.zero_le _) (by decide) 400
  unfold leadingPower at he
  generalize hn : 400 = n at he hscale
  have hlength := pow_length_digits_mul_one_le (Nat.le_trans hscale (Nat.le_mul_of_pos_left _ h))
  have hpowers : n + 1 + (16 + e.toNat) =
      (-e).toNat + (digits (units * 10 ^ n / one)).length := by
    change e = ((digits (units * 10 ^ n / one)).length : Int) - 401 + 1 - 17 at he
    omega
  refine Nat.le_of_mul_le_mul_left ?_ (ten_pow_pos (n + 1))
  calc 10 ^ (n + 1) * (10 ^ 16 * (10 ^ e.toNat * one))
    _ = 10 ^ (-e).toNat * (10 ^ (digits (units * 10 ^ n / one)).length * one) := by
      rw [← Nat.mul_assoc, ← Nat.mul_assoc, ← Nat.mul_assoc, ← Nat.pow_add, ← Nat.pow_add,
        ← Nat.pow_add, Nat.add_assoc, hpowers]
    _ ≤ 10 ^ (-e).toNat * (10 ^ (n + 1) * units) := Nat.mul_le_mul_left _ hlength
    _ = 10 ^ (n + 1) * (units * 10 ^ (-e).toNat) := by ac_rfl

/-- The multiple of a power of ten below a number, and the next one, enclose it. -/
theorem onGrid_encloses (units : Nat) (e : Int) :
    (onGrid units e).1 * 10 ^ e.toNat * one ≤ units * 10 ^ (-e).toNat ∧
      units * 10 ^ (-e).toNat < ((onGrid units e).1 + 1) * 10 ^ e.toNat * one := by
  have encloses (n : Nat) {step : Nat} (h : 0 < step) :
      n / step * step ≤ n ∧ n < (n / step + 1) * step :=
    ⟨Nat.div_mul_le_self n step, (Nat.div_lt_iff_lt_mul h).mp (Nat.lt_succ_self _)⟩
  unfold onGrid
  split
  · have hzero : (-e).toNat = 0 := by omega
    have hstep := encloses units (Nat.mul_pos one_pos (ten_pow_pos e.toNat))
    rw [hzero, Nat.pow_zero, Nat.mul_one, Nat.mul_assoc, Nat.mul_assoc,
      Nat.mul_comm (10 ^ e.toNat) one]
    exact hstep
  · have hzero : e.toNat = 0 := by omega
    rw [hzero, Nat.pow_zero, Nat.mul_one, Nat.mul_one]
    exact encloses _ one_pos

/-- One of the two decimals with 17 digits that enclose a number is rounded to it. -/
theorem decimalPlace_seventeen (h : place ≠ 0) (he : e = leadingPower (unitsAt place) + 1 - 17) :
    decimalPlace (onGrid (unitsAt place) e).1 e = place ∨
      decimalPlace ((onGrid (unitsAt place) e).1 + 1) e = place := by
  have hparts : e = e.toNat - (-e).toNat := by omega
  have hfine := step_le (unitsAt_pos h) he
  have hstep : 0 < 10 ^ e.toNat * one := Nat.mul_pos (ten_pow_pos _) one_pos
  obtain ⟨hle, hlt⟩ := onGrid_encloses (unitsAt place) e
  rw [decimalPlace_eq hparts, decimalPlace_eq hparts]
  generalize (onGrid (unitsAt place) e).1 = below at hle hlt ⊢
  have hnext : (below + 1) * 10 ^ e.toNat * one =
      below * 10 ^ e.toNat * one + 10 ^ e.toNat * one := by
    rw [Nat.succ_mul, Nat.add_mul]
  rw [hnext] at hlt
  rcases Nat.le_total (2 * (unitsAt place * 10 ^ (-e).toNat))
      (2 * (below * 10 ^ e.toNat * one) + 10 ^ e.toNat * one) with hnear | hnear
  · left
    exact nearestPlace_eq_of_near (ten_pow_pos _) (by omega) hnear hfine hstep
  · right
    refine nearestPlace_eq_of_near (ten_pow_pos _) ?_ ?_ hfine hstep <;> rw [hnext] <;> omega

section DecimalOfLength

variable {leading : Int} {count : Nat}

theorem decimalPlace_of_decimalOfLength? {decimal : Nat × Int}
    (h : decimalOfLength? place leading count = some decimal) :
    decimalPlace decimal.1 decimal.2 = place := by
  rcases hgrid : onGrid (unitsAt place) (leading + 1 - count) with ⟨below, rest, step⟩
  simp only [decimalOfLength?, hgrid] at h
  split at h
  · cases h
  · next hbelow _ =>
    cases h
    exact beq_iff_eq.mp hbelow
  · next _ hnext =>
    cases h
    exact beq_iff_eq.mp hnext
  · next hbelow hnext =>
    split at h
    · cases h
      exact beq_iff_eq.mp hbelow
    · cases h
      exact beq_iff_eq.mp hnext

theorem isSome_decimalOfLength? (he : e = leading + 1 - count)
    (h : decimalPlace (onGrid (unitsAt place) e).1 e = place ∨
      decimalPlace ((onGrid (unitsAt place) e).1 + 1) e = place) :
    (decimalOfLength? place leading count).isSome = true := by
  subst he
  rcases hgrid : onGrid (unitsAt place) (leading + 1 - count) with ⟨below, rest, step⟩
  rw [hgrid] at h
  simp only [decimalOfLength?, hgrid]
  split
  · next hbelow hnext =>
    rw [beq_eq_false_iff_ne] at hbelow hnext
    exact absurd h (not_or.mpr ⟨hbelow, hnext⟩)
  · rfl
  · rfl
  · split <;> rfl

end DecimalOfLength

/-- The shortest decimal of a number is rounded to it. -/
theorem decimalPlace_shortest (h : place ≠ 0) :
    decimalPlace (shortest place).1 (shortest place).2 = place := by
  have hfound : ((List.range' 1 17).findSome?
      (decimalOfLength? place (leadingPower (unitsAt place)))).isSome = true := by
    rw [List.isSome_findSome?, List.any_eq_true]
    exact ⟨17, by decide, isSome_decimalOfLength? rfl (decimalPlace_seventeen h rfl)⟩
  obtain ⟨decimal, hdecimal⟩ := Option.isSome_iff_exists.mp hfound
  obtain ⟨count, _, hcount⟩ := List.exists_of_findSome?_eq_some hdecimal
  have hshortest : shortest place = decimal := by
    rw [shortest, if_neg h]
    dsimp only
    rw [hdecimal, Option.getD_some]
  rw [hshortest]
  exact decimalPlace_of_decimalOfLength? hcount

theorem stripZeros_mul (n : Nat) : (stripZeros n).1 * 10 ^ (stripZeros n).2 = n := by
  induction n using Nat.strongRecOn with
  | ind n ih =>
    rw [stripZeros]
    split
    · next h =>
      have hrest := ih (n / 10) (by omega)
      rw [Nat.pow_succ, ← Nat.mul_assoc, hrest]
      omega
    · exact Nat.mul_one n

end Double

namespace Numeral

open Double

/-- The place nearest to the decimal that a numeral writes. -/
def place (n : Numeral) : Nat :=
  decimalPlace (spelled (n.whole ++ n.fraction)) (n.exponent.getD 0 - n.fraction.length)

theorem place_positional (negative : Bool) (ds : List Digit) (point : Int) :
    (positional negative ds point).place = decimalPlace (spelled ds) (point - ds.length) := by
  unfold positional
  split
  · next hpoint =>
    have hspelled : spelled ([.zero] ++ (List.replicate (-point).toNat .zero ++ ds)) =
        spelled ds := by
      rw [spelled_append_list, spelled_append_list, spelled_zeros]
      simp [spelled, Digit.zero]
    simp only [place, hspelled, Option.getD_none, List.length_append, List.length_replicate]
    congr 1
    omega
  · split
    · next hlength =>
      have hspelled : spelled (ds ++ List.replicate (point - ds.length).toNat .zero ++ [.zero]) =
          spelled ds * 10 ^ ((point - ds.length).toNat + 1) := by
        rw [spelled_append_list, spelled_append_list, spelled_zeros, List.length_replicate]
        simp [spelled, Digit.zero, Nat.pow_succ, Nat.mul_assoc]
      simp only [place, hspelled, Option.getD_none, List.length_singleton, decimalPlace_mul_pow]
      congr 1
      omega
    · next hpoint hlength =>
      simp only [place, List.take_append_drop, Option.getD_none, List.length_drop]
      congr 1
      omega

theorem place_scientific (negative : Bool) {ds : List Digit} (h : ds ≠ []) (point : Int) :
    (scientific negative ds point).place = decimalPlace (spelled ds) (point - ds.length) := by
  have hlength := List.length_pos_iff.mpr h
  simp only [scientific, place, List.take_append_drop, Option.getD_some, List.length_drop]
  congr 1
  omega

theorem negative_ofDouble (d : Double) : (ofDouble d).negative = d.negative := by
  unfold ofDouble
  split
  · rfl
  · dsimp only
    split
    · unfold positional
      split
      · rfl
      · split <;> rfl
    · rfl

/-- Rounding what the numeral of a number writes gives the number back. -/
theorem place_ofDouble (d : Double) : (ofDouble d).place = d.place := by
  unfold ofDouble
  split
  · next hzero =>
    rw [hzero]
    exact decimalPlace_zero (-1)
  · next hplace =>
    have hdecimal := decimalPlace_shortest hplace
    rw [← stripZeros_mul (shortest d.place).1, decimalPlace_mul_pow] at hdecimal
    have hpoint (length power : Int) : length + power - length = power := by omega
    dsimp only
    split
    · rw [place_positional, spelled_digits, hpoint, hdecimal]
    · rw [place_scientific _ (digits_ne_nil _), spelled_digits, hpoint, hdecimal]

/-- No two numbers have one numeral. -/
theorem ofDouble_injective {d e : Double} (h : ofDouble d = ofDouble e) : d = e := by
  have hsign := congrArg Numeral.negative h
  have hplace := congrArg Numeral.place h
  rw [negative_ofDouble, negative_ofDouble] at hsign
  rw [place_ofDouble, place_ofDouble] at hplace
  obtain ⟨sign, p, hp⟩ := d
  obtain ⟨sign', p', hp'⟩ := e
  cases hsign
  cases hplace
  rfl

end Numeral

end RunTable
