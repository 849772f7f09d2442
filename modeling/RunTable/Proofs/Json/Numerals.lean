import RunTable.Json.Value

/-! # The numerals of numbers

A number is written as a numeral that reads back (`Numeral.Proper`): its whole
part begins with zero only if it is zero. A numeral tells what kind of number
it writes. That of an integer has neither a point nor a power of ten; that of
any other number has one of them, so an integer and a floating-point number of
the same value are never mistaken for each other. -/

namespace RunTable

/-! ## Digits -/

theorem digits_zero : digits 0 = [.zero] := by
  rw [digits, if_pos (by decide)]
  rfl

/-- The digits of a positive number do not begin with zero. -/
theorem digits_head {n : Nat} (h : 0 < n) : ∃ d ds, digits n = d :: ds ∧ d ≠ .zero := by
  induction n using Nat.strongRecOn with
  | ind n ih =>
    rw [digits]
    split
    · next hn =>
      refine ⟨_, _, rfl, fun he => ?_⟩
      have hval : n % 10 = 0 := congrArg Fin.val he
      omega
    · next hn =>
      obtain ⟨d, ds, hd, hne⟩ := ih (n / 10) (by omega) (by omega)
      exact ⟨d, ds ++ [Fin.ofNat 10 n], by rw [hd, List.cons_append], hne⟩

namespace Double

theorem stripZeros_zero : stripZeros 0 = (0, 0) := by
  rw [stripZeros, dif_neg (by omega)]

theorem stripZeros_pos {n : Nat} (h : 0 < n) : 0 < (stripZeros n).1 := by
  induction n using Nat.strongRecOn with
  | ind n ih =>
    rw [stripZeros]
    split
    · exact ih (n / 10) (by omega) (by omega)
    · exact h

theorem decimalPlace_zero (exponent : Int) : decimalPlace 0 exponent = 0 := by
  have hround (den : Nat) : roundDiv 0 den = 0 := by
    unfold roundDiv
    simp only [Nat.zero_div, Nat.zero_mod]
    split
    · rfl
    · exact if_neg (Nat.not_lt_zero _)
  have hnearest (den : Nat) : nearestPlace 0 den = 0 := by
    simp only [nearestPlace, Nat.zero_mul, Nat.zero_div, Nat.log2_zero, Nat.zero_sub, hround]
  unfold decimalPlace
  split
  · rw [Nat.zero_mul, hnearest]
  · exact hnearest _

/-- A decimal that reads back as a number other than zero is not zero. -/
theorem decimalOfLength?_pos {place count : Nat} {leading : Int} {decimal : Nat × Int}
    (hplace : place ≠ 0) (h : decimalOfLength? place leading count = some decimal) :
    0 < decimal.1 := by
  rcases hgrid : onGrid (unitsAt place) (leading + 1 - count) with ⟨below, rest, step⟩
  have hbelow : (decimalPlace below (leading + 1 - count) == place) = true → 0 < below := by
    intro hreads
    refine Nat.pos_of_ne_zero fun hzero => hplace ?_
    rw [← beq_iff_eq.mp hreads, hzero, decimalPlace_zero]
  simp only [decimalOfLength?, hgrid] at h
  split at h
  · cases h
  · next hreads _ =>
    cases h
    exact hbelow hreads
  · cases h
    exact Nat.succ_pos below
  · next hreads _ =>
    split at h
    · cases h
      exact hbelow hreads
    · cases h
      exact Nat.succ_pos below

theorem shortest_cases (place : Nat) : shortest place = (0, 0) ∨ 0 < (shortest place).1 := by
  by_cases hplace : place = 0
  · exact .inl (if_pos hplace)
  · have hshortest : shortest place = ((List.range' 1 17).findSome?
        (decimalOfLength? place (leadingPower (unitsAt place)))).getD (0, 0) := if_neg hplace
    rw [hshortest]
    cases hfound : (List.range' 1 17).findSome?
        (decimalOfLength? place (leadingPower (unitsAt place))) with
    | none => exact .inl rfl
    | some decimal =>
      obtain ⟨count, _, hcount⟩ := List.exists_of_findSome?_eq_some hfound
      exact .inr (decimalOfLength?_pos hplace hcount)

end Double

namespace Numeral

/-! ## Numerals that read back -/

theorem proper_ofInt (n : Int) : (ofInt n).Proper := by
  rcases Nat.eq_zero_or_pos n.natAbs with h | h
  · left
    show digits n.natAbs = [.zero]
    rw [h, digits_zero]
  · exact .inr (digits_head h)

section Layout

variable {ds : List Digit}

/-- Digits that begin with zero only if they are zero. -/
theorem proper_positional (h : ∃ d r, ds = d :: r ∧ d ≠ .zero) (negative : Bool) (point : Int) :
    (positional negative ds point).Proper := by
  obtain ⟨d, r, rfl, hd⟩ := h
  unfold positional
  split
  · exact .inl rfl
  · next hpoint =>
    split
    · exact .inr ⟨d, _, rfl, hd⟩
    · obtain ⟨k, hk⟩ : ∃ k, point.toNat = k + 1 := ⟨point.toNat - 1, by omega⟩
      exact .inr ⟨d, r.take k, by rw [hk, List.take_succ_cons], hd⟩

theorem proper_scientific (h : ∃ d r, ds = d :: r ∧ d ≠ .zero) (negative : Bool) (point : Int) :
    (scientific negative ds point).Proper := by
  obtain ⟨d, r, rfl, hd⟩ := h
  exact .inr ⟨d, [], rfl, hd⟩

/-- Digits around a point always have some after it. -/
theorem fraction_positional_ne_nil (h : ds ≠ []) (negative : Bool) (point : Int) :
    (positional negative ds point).fraction ≠ [] := by
  unfold positional
  split
  · exact fun he => h (List.append_eq_nil_iff.mp he).2
  · split
    · exact List.cons_ne_nil _ _
    · next hlength =>
      intro he
      have := List.drop_eq_nil_iff.mp he
      omega

end Layout

/-- The numeral of a number is zero, or lays out digits that do not begin with zero. -/
theorem ofDouble_cases (d : Double) :
    ofDouble d = ⟨d.negative, [.zero], [.zero], none⟩ ∨
      ∃ ds point, (∃ e r, ds = e :: r ∧ e ≠ .zero) ∧
        (ofDouble d = positional d.negative ds point ∨
          ofDouble d = scientific d.negative ds point) := by
  unfold ofDouble
  split
  · exact .inl rfl
  · rcases Double.shortest_cases d.place with h | h
    · left
      rw [h]
      simp only [Double.stripZeros_zero, digits_zero]
      rfl
    · have hds := digits_head (Double.stripZeros_pos h)
      right
      dsimp only
      split
      · exact ⟨_, _, hds, .inl rfl⟩
      · exact ⟨_, _, hds, .inr rfl⟩

theorem proper_ofDouble (d : Double) : (ofDouble d).Proper := by
  rcases ofDouble_cases d with h | ⟨ds, point, hds, h | h⟩
  · rw [h]
    exact .inl rfl
  · rw [h]
    exact proper_positional hds _ _
  · rw [h]
    exact proper_scientific hds _ _

/-- A number that need not be an integer is written with a point or a power of ten. -/
theorem fraction_ne_nil_or_exponent_ne_none (d : Double) :
    (ofDouble d).fraction ≠ [] ∨ (ofDouble d).exponent ≠ none := by
  rcases ofDouble_cases d with h | ⟨ds, point, ⟨e, r, hds, _⟩, h | h⟩
  · rw [h]
    exact .inl (List.cons_ne_nil _ _)
  · rw [h, hds]
    exact .inl (fraction_positional_ne_nil (List.cons_ne_nil _ _) _ _)
  · rw [h]
    exact .inr (Option.some_ne_none _)

end Numeral

namespace Json.Value

/-! ## Kinds of numbers -/

theorem integer?_ofInt (n : Int) : integer? (Numeral.ofInt n) = WideInt.ofInt? n := by
  simp only [integer?, Numeral.ofInt, ne_eq, not_true_eq_false, or_false, if_false,
    decide_eq_true_eq, spelled_digits]
  split
  · rw [if_neg (by omega)]
    congr 1
    omega
  · congr 1
    omega

theorem integer?_ofDouble (d : Double) : integer? (Numeral.ofDouble d) = none :=
  if_pos (Numeral.fraction_ne_nil_or_exponent_ne_none d)

theorem ofNumeral?_ofInt (n : WideInt) : ofNumeral? (Numeral.ofInt n.val) = some (.integer n) := by
  have h : WideInt.ofInt? n.val = some n := dif_pos ⟨n.lower, n.upper⟩
  rw [ofNumeral?, integer?_ofInt, h]

/-- The numeral of a number spells that number. Numerals are read by rounding
the digits and the power of ten apart, so there are numbers of which it does
not. -/
def ReadsBack (d : Double) : Prop := double? (Numeral.ofDouble d) = some d

instance (d : Double) : Decidable (ReadsBack d) := inferInstanceAs (Decidable (_ = _))

theorem ofNumeral?_ofDouble {d : Double} (h : ReadsBack d) :
    ofNumeral? (Numeral.ofDouble d) = some (.double d) := by
  rw [ofNumeral?, integer?_ofDouble]
  show (double? (Numeral.ofDouble d)).map Value.double = _
  rw [h, Option.map_some]

end Json.Value

end RunTable
