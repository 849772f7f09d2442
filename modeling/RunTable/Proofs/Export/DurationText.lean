import Mathlib.Algebra.Order.Field.Rat
import Mathlib.Tactic.FieldSimp
import Mathlib.Tactic.Linarith
import Mathlib.Tactic.Ring
import RunTable.Proofs.Export.Tenths
import RunTable.Proofs.Json.Numerals

/-! # Reading durations back

A duration reads as a number of some unit, and that many milliseconds. A longer
duration never reads as fewer (`TimeSpan.milliseconds_shown_mono`): with one unit it
has no fewer tenths, and what is shorter than a unit reads as that unit at most, what
is as long as a unit as that unit at least (`shownMilliseconds_le`,
`le_shownMilliseconds`). Up to `2 ^ 53` milliseconds what is read is half a tenth of
the unit off at most. -/

namespace RunTable

/-! ## Units -/

namespace TimeUnit

def all : List TimeUnit := [second, minute, hour, day]

variable {a b units : Nat} {u v : TimeUnit}

theorem choose_mem (units : Nat) : choose units ∈ all := by
  unfold choose
  split
  · simp [all]
  · split
    · simp [all]
    · split <;> simp [all]

/-- The chosen unit is not longer than the duration, but for seconds. -/
theorem choose_le (units : Nat) :
    choose units = second ∨ (choose units).milliseconds * Double.one ≤ units := by
  unfold choose
  split
  · exact Or.inl rfl
  · next hminute =>
    split
    · exact Or.inr (Nat.not_lt.mp hminute)
    · next hhour =>
      split
      · exact Or.inr (Nat.not_lt.mp hhour)
      · next hday => exact Or.inr (Nat.not_lt.mp hday)

/-- No longer unit than the chosen one is as short as the duration. -/
theorem le_choose (hu : u ∈ all) (h : u.milliseconds * Double.one ≤ units) :
    u.milliseconds ≤ (choose units).milliseconds := by
  have hshorter {limit : Nat} (hlimit : units < limit * Double.one) : u.milliseconds < limit :=
    Nat.lt_of_mul_lt_mul_right (Nat.lt_of_le_of_lt h hlimit)
  unfold choose
  split
  · next hminute =>
    exact (by decide : ∀ u ∈ all, u.milliseconds < minute.milliseconds →
      u.milliseconds ≤ second.milliseconds) u hu (hshorter hminute)
  · split
    · next hhour =>
      exact (by decide : ∀ u ∈ all, u.milliseconds < hour.milliseconds →
        u.milliseconds ≤ minute.milliseconds) u hu (hshorter hhour)
    · split
      · next hday =>
        exact (by decide : ∀ u ∈ all, u.milliseconds < day.milliseconds →
          u.milliseconds ≤ hour.milliseconds) u hu (hshorter hday)
      · exact (by decide : ∀ u ∈ all, u.milliseconds ≤ day.milliseconds) u hu

/-- Two durations have one unit, or the length of a unit lies between them. -/
theorem choose_eq_or_between (h : a ≤ b) : choose a = choose b ∨
    ∃ u ∈ all, a < u.milliseconds * Double.one ∧ u.milliseconds * Double.one ≤ b := by
  have hsplit (u : TimeUnit) : (a < u.milliseconds * Double.one ↔ b < u.milliseconds * Double.one) ∨
      (a < u.milliseconds * Double.one ∧ u.milliseconds * Double.one ≤ b) := by omega
  rcases hsplit minute with hminute | hbetween
  · rcases hsplit hour with hhour | hbetween
    · rcases hsplit day with hday | hbetween
      · left
        simp only [choose, hminute, hhour, hday]
      · exact Or.inr ⟨day, by simp [all], hbetween⟩
    · exact Or.inr ⟨hour, by simp [all], hbetween⟩
  · exact Or.inr ⟨minute, by simp [all], hbetween⟩

/-- The lengths of the units are even numbers of tenths, and small. -/
theorem length_spec : ∀ u ∈ all,
    20 ∣ u.milliseconds ∧ 0 < u.milliseconds ∧ u.milliseconds ≤ 2 ^ 53 := by decide

theorem second_le : ∀ u ∈ all, second.milliseconds ≤ u.milliseconds := by decide

/-- Every unit is a whole number of any shorter one. -/
theorem dvd_of_le : ∀ u ∈ all, ∀ v ∈ all, u.milliseconds ≤ v.milliseconds →
    u.milliseconds ∣ v.milliseconds := by decide

end TimeUnit

/-! ## What a text shows -/

/-- The milliseconds that a duration is shown as, by the tenths of its unit. -/
def shownMilliseconds (units : Nat) : Nat :=
  let unit := (TimeUnit.choose units).milliseconds
  quotientTenths units unit * (unit / 10)

section Shown

open TimeUnit

variable {a b n units : Nat} {u : TimeUnit}

theorem whole_mul_tenth (hu : u ∈ all) (k : Nat) :
    k * 10 * (u.milliseconds / 10) = k * u.milliseconds := by
  have hten : 10 ∣ u.milliseconds := Nat.dvd_trans (by decide) (length_spec u hu).1
  rw [Nat.mul_assoc, Nat.mul_div_cancel' hten]

/-- What is shorter than a unit is shown as that unit at most. -/
theorem shownMilliseconds_le (hu : u ∈ all) (h : units < u.milliseconds * Double.one) :
    shownMilliseconds units ≤ u.milliseconds := by
  have hmem := choose_mem units
  obtain ⟨_, hpos, _⟩ := length_spec _ hmem
  have hle : (choose units).milliseconds ≤ u.milliseconds := by
    rcases choose_le units with hsecond | hshort
    · rw [hsecond]
      exact second_le u hu
    · exact Nat.le_of_lt (Nat.lt_of_mul_lt_mul_right (Nat.lt_of_le_of_lt hshort h))
  obtain ⟨k, hk⟩ := dvd_of_le _ hmem u hu hle
  rw [Nat.mul_comm] at hk
  have hsmall : k ≤ 2 ^ 53 :=
    Nat.le_trans (Nat.le_mul_of_pos_right k hpos) (hk ▸ (length_spec u hu).2.2)
  calc shownMilliseconds units
      ≤ quotientTenths (u.milliseconds * Double.one) (choose units).milliseconds *
          ((choose units).milliseconds / 10) :=
        Nat.mul_le_mul_right _ (quotientTenths_mono hpos (Nat.le_of_lt h))
    _ = u.milliseconds := by
        rw [hk, quotientTenths_whole hpos hsmall, whole_mul_tenth hmem]

/-- What is as long as a unit is shown as that unit at least. -/
theorem le_shownMilliseconds (hu : u ∈ all) (h : u.milliseconds * Double.one ≤ units) :
    u.milliseconds ≤ shownMilliseconds units := by
  have hmem := choose_mem units
  obtain ⟨_, hpos, _⟩ := length_spec _ hmem
  have hlong : 1 * (choose units).milliseconds * Double.one ≤ units := by
    rw [Nat.one_mul]
    rcases choose_le units with hsecond | hshort
    · rw [hsecond]
      exact Nat.le_trans (Nat.mul_le_mul_right _ (second_le u hu)) h
    · exact hshort
  calc u.milliseconds
      ≤ 1 * (choose units).milliseconds :=
        Nat.le_trans (le_choose hu h) (Nat.le_of_eq (Nat.one_mul _).symm)
    _ = quotientTenths (1 * (choose units).milliseconds * Double.one)
          (choose units).milliseconds * ((choose units).milliseconds / 10) := by
        rw [quotientTenths_whole hpos (by decide), whole_mul_tenth hmem]
    _ ≤ shownMilliseconds units := Nat.mul_le_mul_right _ (quotientTenths_mono hpos hlong)

theorem shownMilliseconds_mono (h : a ≤ b) : shownMilliseconds a ≤ shownMilliseconds b := by
  rcases choose_eq_or_between h with hchoose | ⟨u, hu, ha, hb⟩
  · rw [shownMilliseconds, shownMilliseconds, hchoose]
    exact Nat.mul_le_mul_right _ (quotientTenths_mono (length_spec _ (choose_mem b)).2.1 h)
  · exact Nat.le_trans (shownMilliseconds_le hu ha) (le_shownMilliseconds hu hb)

/-- An integer up to `2 ^ 53` is shown as one that is a twentieth of its unit off at
most. -/
theorem shownMilliseconds_near (hn : n ≤ 2 ^ 53) :
    let unit := (choose (n * Double.one)).milliseconds
    20 * shownMilliseconds (n * Double.one) ≤ 20 * n + unit ∧
      20 * n ≤ 20 * shownMilliseconds (n * Double.one) + unit := by
  have hmem := choose_mem (n * Double.one)
  obtain ⟨htwenty, hpos, hsmall⟩ := length_spec _ hmem
  have hshown : 20 * shownMilliseconds (n * Double.one) =
      2 * (quotientTenths (n * Double.one) (choose (n * Double.one)).milliseconds *
        (choose (n * Double.one)).milliseconds) := by
    rw [← whole_mul_tenth hmem, shownMilliseconds]
    ring
  rw [hshown]
  exact quotientTenths_near htwenty hpos hsmall hn

/-- Half a second is shown as it is. -/
theorem shownMilliseconds_halfSecond : shownMilliseconds (500 * Double.one) = 500 := by
  have hsecond : choose (500 * Double.one) = second :=
    if_pos (Nat.mul_lt_mul_of_pos_right (by decide) Double.one_pos)
  obtain ⟨hhigh, hlow⟩ : 2 * (quotientTenths (500 * Double.one) 1000 * 1000) ≤ 20 * 500 + 1000 ∧
      20 * 500 ≤ 2 * (quotientTenths (500 * Double.one) 1000 * 1000) + 1000 :=
    quotientTenths_near (by decide) (by decide) (by decide) (by decide)
  have htenths : quotientTenths (500 * Double.one) 1000 = 5 := by omega
  rw [shownMilliseconds, hsecond, second, htenths]
  rfl

end Shown

/-! ## A reader -/

theorem digits_of_lt {n : Nat} (h : n < 10) : digits n = [Fin.ofNat 10 n] := by
  rw [digits, if_pos h]

namespace Numeral

/-- The number that a numeral writes. -/
def value (n : Numeral) : ℚ :=
  (if n.negative then -1 else 1) * spelled (n.whole ++ n.fraction) *
    10 ^ (n.exponent.getD 0 - n.fraction.length)

/-- The numeral of a number with one decimal. -/
def ofTenths (t : Nat) : Numeral := ⟨false, digits (t / 10), digits (t % 10), none⟩

theorem proper_ofTenths (t : Nat) : (ofTenths t).Proper := proper_ofInt (t / 10 : Nat)

theorem value_ofInt (n : Int) : (ofInt n).value = n := by
  simp only [value, ofInt, List.append_nil, spelled_digits, decide_eq_true_eq, Option.getD_none,
    List.length_nil, Nat.cast_zero, sub_zero, zpow_zero, mul_one]
  split
  · next h => rw [Nat.cast_natAbs, abs_of_neg h, Int.cast_neg, neg_one_mul, neg_neg]
  · next h => rw [Nat.cast_natAbs, abs_of_nonneg (Int.not_lt.mp h), one_mul]

theorem value_ofTenths (t : Nat) : (ofTenths t).value = t / 10 := by
  have hdigit := digits_of_lt (Nat.mod_lt t (by decide : 0 < 10))
  have hspelled : spelled (digits (t / 10) ++ digits (t % 10)) = t := by
    rw [spelled_append_list, spelled_digits, spelled_digits, hdigit, List.length_singleton]
    omega
  have hlength : (digits (t % 10)).length = 1 := by rw [hdigit, List.length_singleton]
  simp [value, ofTenths, hspelled, hlength, div_eq_mul_inv]

end Numeral

theorem integerText_eq (n : Int) : integerText n = String.ofList (Numeral.ofInt n).write := by
  unfold integerText
  split
  · next h => simp [Numeral.write, Numeral.ofInt, naturalText, h]
  · next h => simp [Numeral.write, Numeral.ofInt, naturalText, h]

theorem tenthsText_eq (t : Nat) : tenthsText t = String.ofList (Numeral.ofTenths t).write := by
  simp [Numeral.write, Numeral.ofTenths, tenthsText, naturalText, digits_ne_nil,
    String.append_assoc]

/-- A number of units of time, with the milliseconds of its unit. -/
structure TimeSpan where
  number : ℚ
  unit : Nat

namespace TimeSpan

def milliseconds (span : TimeSpan) : ℚ := span.number * span.unit

/-- The units that a text can name. -/
def unitLengths : List (String × Nat) :=
  [("ms", 1), ("s", 1000), ("min", 60000), ("h", 3600000), ("d", 86400000)]

/-- The number and the unit that a text spells. -/
def read? (text : String) : Option TimeSpan := do
  let (numeral, symbol) ← Numeral.read? text.toList
  let unit ← unitLengths.lookup (String.ofList symbol)
  some ⟨numeral.value, unit⟩

theorem ends_cons {c : Char} (h : Digit.ofChar? c = none ∧ c ≠ '.' ∧ c ≠ 'e' ∧ c ≠ 'E')
    (s : List Char) : Numeral.Ends (c :: s) := by
  intro d hd
  cases hd
  exact h

theorem ends_symbol : ∀ entry ∈ unitLengths, Numeral.Ends entry.1.toList := by
  intro entry hentry
  simp only [unitLengths, List.mem_cons, List.not_mem_nil, or_false] at hentry
  rcases hentry with rfl | rfl | rfl | rfl | rfl <;> exact ends_cons (by decide) _

theorem lookup_symbol : ∀ entry ∈ unitLengths, unitLengths.lookup entry.1 = some entry.2 := by
  decide

theorem read?_write {n : Numeral} (hn : n.Proper) {symbol : String} {unit : Nat}
    (h : (symbol, unit) ∈ unitLengths) :
    read? (String.ofList n.write ++ symbol) = some ⟨n.value, unit⟩ := by
  have hlookup := lookup_symbol _ h
  simp [read?, Numeral.read?_write hn (ends_symbol _ h), hlookup]

/-- A duration in tenths of a unit. -/
def inTenths (units unit : Nat) : TimeSpan := ⟨quotientTenths units unit / 10, unit⟩

/-- What the text of a duration spells. -/
def shown (ms : Int64) : TimeSpan :=
  if ms < 500 then ⟨ms.toInt, 1⟩
  else
    let units := Double.nearestUnits ms.toInt.toNat 1
    inTenths units (TimeUnit.choose units).milliseconds

theorem read?_durationText (ms : Int64) : read? (durationText ms) = some (shown ms) := by
  unfold durationText shown
  split
  · have hmilliseconds : ("ms", 1) ∈ unitLengths := by decide
    rw [integerText_eq, read?_write (Numeral.proper_ofInt _) hmilliseconds, Numeral.value_ofInt]
  · have hsymbol : ∀ u ∈ TimeUnit.all, (u.symbol, u.milliseconds) ∈ unitLengths := by decide
    dsimp only
    rw [tenthsText_eq, read?_write (Numeral.proper_ofTenths _)
      (hsymbol _ (TimeUnit.choose_mem _)), Numeral.value_ofTenths, inTenths, quotientTenths]

theorem unit_inTenths (units unit : Nat) : (inTenths units unit).unit = unit := rfl

theorem milliseconds_inTenths (units : Nat) {unit : Nat} (h : 10 ∣ unit) :
    (inTenths units unit).milliseconds = (quotientTenths units unit * (unit / 10) : ℕ) := by
  obtain ⟨tenth, rfl⟩ := h
  rw [milliseconds, inTenths, Nat.mul_div_cancel_left tenth (by decide)]
  push_cast
  ring

theorem milliseconds_inTenths_choose (units : Nat) :
    (inTenths units (TimeUnit.choose units).milliseconds).milliseconds =
      (shownMilliseconds units : ℕ) :=
  milliseconds_inTenths units
    (Nat.dvd_trans (by decide) (TimeUnit.length_spec _ (TimeUnit.choose_mem units)).1)

variable {a b ms : Int64}

theorem milliseconds_shown_of_lt (h : ms < 500) : (shown ms).milliseconds = ms.toInt := by
  rw [shown, if_pos h, milliseconds, Nat.cast_one, mul_one]

theorem shown_of_le (h : 500 ≤ ms) :
    let units := Double.nearestUnits ms.toInt.toNat 1
    shown ms = inTenths units (TimeUnit.choose units).milliseconds :=
  if_neg (Int64.not_lt.mpr h)

/-- What half a second and more is shown as is no less. -/
theorem halfSecond_le_shownMilliseconds (h : 500 ≤ ms) :
    500 ≤ shownMilliseconds (Double.nearestUnits ms.toInt.toNat 1) := by
  have hle : 500 ≤ ms.toInt.toNat := Int.toNat_le_toNat (Int64.le_iff_toInt_le.mp h)
  calc 500 = shownMilliseconds (Double.nearestUnits 500 1) := by
        rw [Double.nearestUnits, Double.unitsAt_nearestPlace_of_le (by decide),
          shownMilliseconds_halfSecond]
    _ ≤ _ := shownMilliseconds_mono (Double.nearestUnits_mono (by decide) hle)

theorem milliseconds_shown_mono (h : a ≤ b) :
    (shown a).milliseconds ≤ (shown b).milliseconds := by
  have hle := Int64.le_iff_toInt_le.mp h
  rcases Int64.lt_or_le b 500 with hb | hb
  · rw [milliseconds_shown_of_lt (Int64.lt_of_le_of_lt h hb), milliseconds_shown_of_lt hb]
    exact Int.cast_le.mpr hle
  rw [shown_of_le hb, milliseconds_inTenths_choose]
  rcases Int64.lt_or_le a 500 with ha | ha
  · have hshort : a.toInt ≤ 500 := Int.le_of_lt (Int64.lt_iff_toInt_lt.mp ha)
    rw [milliseconds_shown_of_lt ha, ← Int.cast_natCast]
    exact Int.cast_le.mpr
      (Int.le_trans hshort (Int.ofNat_le.mpr (halfSecond_le_shownMilliseconds hb)))
  · rw [shown_of_le ha, milliseconds_inTenths_choose]
    exact Nat.cast_le.mpr (shownMilliseconds_mono
      (Double.nearestUnits_mono (by decide) (Int.toNat_le_toNat hle)))

theorem milliseconds_shown_near (hlong : 500 ≤ ms) (hsmall : ms.toInt ≤ 2 ^ 53) :
    |(shown ms).milliseconds - ms.toInt| ≤ ((shown ms).unit : ℚ) / 20 := by
  have hpos : 500 ≤ ms.toInt := Int64.le_iff_toInt_le.mp hlong
  obtain ⟨n, hn⟩ := Int.eq_ofNat_of_zero_le (Int.le_trans (by decide) hpos)
  have hn53 : n ≤ 2 ^ 53 := by omega
  rw [shown_of_le hlong, hn, Int.toNat_natCast, Double.nearestUnits,
    Double.unitsAt_nearestPlace_of_le hn53, milliseconds_inTenths_choose, unit_inTenths,
    Int.cast_natCast, abs_le]
  obtain ⟨hhigh, hlow⟩ := shownMilliseconds_near hn53
  have hhigh := Nat.cast_le (α := ℚ).mpr hhigh
  have hlow := Nat.cast_le (α := ℚ).mpr hlow
  push_cast at hhigh hlow
  constructor <;> linarith

end TimeSpan

/-- Every text of a duration can be read, what a longer duration is read as is no
less, and up to `2 ^ 53` milliseconds it is a twentieth of the unit off at most. -/
theorem durationText_reads_in_order :
    (∀ a b : Int64, a ≤ b → ∃ x y, TimeSpan.read? (durationText a) = some x ∧
      TimeSpan.read? (durationText b) = some y ∧ x.milliseconds ≤ y.milliseconds) ∧
    (∀ ms : Int64, 500 ≤ ms → ms.toInt ≤ 2 ^ 53 → ∃ x,
      TimeSpan.read? (durationText ms) = some x ∧
        |x.milliseconds - ms.toInt| ≤ (x.unit : ℚ) / 20) := by
  constructor
  · intro a b h
    exact ⟨_, _, TimeSpan.read?_durationText a, TimeSpan.read?_durationText b,
      TimeSpan.milliseconds_shown_mono h⟩
  · intro ms hlong hsmall
    exact ⟨_, TimeSpan.read?_durationText ms, TimeSpan.milliseconds_shown_near hlong hsmall⟩

/-- Just below a minute sixty seconds are shown, and `2 ^ 53` milliseconds in days. -/
theorem durationText_reads_in_order_minute :
    let below : Int64 := 59999
    let minute : Int64 := 60000
    let long : Int64 := 9007199254740992
    durationText below = "60.0s" ∧ durationText minute = "1.0min" ∧
      durationText long = "104249991.4d" ∧
    (below ≤ minute ∧ ∃ x y, TimeSpan.read? (durationText below) = some x ∧
      TimeSpan.read? (durationText minute) = some y ∧ x.milliseconds ≤ y.milliseconds) ∧
    (500 ≤ long ∧ long.toInt ≤ 2 ^ 53 ∧ ∃ x, TimeSpan.read? (durationText long) = some x ∧
      |x.milliseconds - long.toInt| ≤ (x.unit : ℚ) / 20) := by
  intro below minute long
  obtain ⟨ordered, near⟩ := durationText_reads_in_order
  have hle : below ≤ minute := by decide
  have hlong : 500 ≤ long := by decide
  have hsmall : long.toInt ≤ 2 ^ 53 := by decide
  exact ⟨by decide +kernel, by decide +kernel, by decide +kernel, ⟨hle, ordered below minute hle⟩,
    hlong, hsmall, near long hlong hsmall⟩

end RunTable
