import Mathlib.Algebra.Order.Ring.Nat
import RunTable.Export.Timestamp

/-! # The Gregorian calendar

A date has a number, which is counted: the days of the years before it, of the
months before it and of its month before it. Dates are found from numbers without
counting years, by the mean length of a year, which is one year off at most
(`yearOf_spec`). The date that is found is one that there is and has the number
(`dateOf_spec`), and a later date has a larger number (`number_lt`). -/

namespace RunTable.Calendar

/-- Every fourth year has a day more, but of the hundreds only every fourth. -/
def Leap (year : Nat) : Prop := 4 ∣ year ∧ (100 ∣ year → 400 ∣ year)

instance (year : Nat) : Decidable (Leap year) := inferInstanceAs (Decidable (_ ∧ _))

def yearLength (year : Nat) : Nat := if Leap year then 366 else 365

/-- The days of a month, months being counted from one. -/
def monthLength (year month : Nat) : Nat :=
  if month = 2 then if Leap year then 29 else 28
  else if month ∈ [4, 6, 9, 11] then 30 else 31

/-- The sum of the first values of a function. -/
def total (f : Nat → Nat) (n : Nat) : Nat := ((List.range n).map f).sum

/-- There is such a date. -/
def Date.Valid (d : Date) : Prop :=
  1 ≤ d.month ∧ d.month ≤ 12 ∧ 1 ≤ d.day ∧ d.day ≤ monthLength d.year d.month

instance (d : Date) : Decidable d.Valid := inferInstanceAs (Decidable (_ ∧ _ ∧ _ ∧ _))

/-- The days from the first of January of the year zero to a date. -/
def Date.number (d : Date) : Nat :=
  total yearLength d.year + total (fun m => monthLength d.year (m + 1)) (d.month - 1) + (d.day - 1)

theorem monthLength_le (year month : Nat) : monthLength year month ≤ 31 := by
  unfold monthLength
  split
  · split <;> decide
  · split <;> decide

/-! ## Sums -/

theorem total_succ (f : Nat → Nat) (n : Nat) : total f (n + 1) = total f n + f n := by
  simp [total, List.range_succ]

theorem total_add_le {f : Nat → Nat} {m n : Nat} (h : m < n) : total f m + f m ≤ total f n := by
  induction n with
  | zero => exact absurd h (Nat.not_lt_zero m)
  | succ n ih =>
    rw [total_succ]
    rcases Nat.lt_succ_iff_lt_or_eq.mp h with hlt | rfl
    · exact Nat.le_add_right_of_le (ih hlt)
    · exact Nat.le_refl _

/-! ## Years -/

theorem isLeap_iff {year : Nat} : isLeap year = true ↔ Leap year := by
  simp only [isLeap, Leap, Bool.and_eq_true, Bool.or_eq_true, beq_iff_eq, bne_iff_ne, ne_eq]
  omega

theorem total_monthLength (year : Nat) :
    total (fun m => monthLength year (m + 1)) 12 = yearLength year := by
  by_cases h : Leap year <;> simp [total, List.range_succ, monthLength, yearLength, h]

/-- A quotient that is rounded up grows behind every multiple. -/
theorem roundedUp_succ (n k : Nat) :
    (n + 1 + k) / (k + 1) = (n + k) / (k + 1) + if k + 1 ∣ n then 1 else 0 := by
  rw [Nat.add_right_comm, Nat.succ_div, Nat.add_assoc n k 1]
  simp only [Nat.dvd_add_self_right]

theorem daysBefore_succ (year : Nat) :
    daysBefore (year + 1) = daysBefore year + yearLength year := by
  have hhundreds : (year + 99) / 100 ≤ 365 * year + (year + 3) / 4 := by omega
  have hfourHundred : 400 ∣ year → 100 ∣ year := Nat.dvd_trans (by decide)
  have hhundred : 100 ∣ year → 4 ∣ year := Nat.dvd_trans (by decide)
  simp only [daysBefore, yearLength, Leap, roundedUp_succ year 3, roundedUp_succ year 99,
    roundedUp_succ year 399]
  generalize (year + 3) / 4 = fours at *
  generalize (year + 99) / 100 = hundreds at *
  by_cases h4 : 4 ∣ year
  · by_cases h100 : 100 ∣ year
    · by_cases h400 : 400 ∣ year <;> simp [h4, h100, h400] <;> omega
    · simp [h4, h100, mt hfourHundred h100]
      omega
  · simp [h4, mt hhundred h4, mt hfourHundred (mt hhundred h4)]
    omega

theorem daysBefore_eq (year : Nat) : daysBefore year = total yearLength year := by
  induction year with
  | zero => rfl
  | succ year ih => rw [total_succ, daysBefore_succ, ih]

/-- The years before a year are of the mean length, to two days. -/
theorem daysBefore_near (year : Nat) :
    146097 * year ≤ 400 * daysBefore year + 396 ∧
      400 * daysBefore year ≤ 146097 * year + 699 := by
  unfold daysBefore
  omega

/-- The year that is found for a day is the one that the day falls into. -/
theorem yearOf_spec (day : Nat) :
    total yearLength (yearOf day) ≤ day ∧ day < total yearLength (yearOf day + 1) := by
  rw [← daysBefore_eq, ← daysBefore_eq]
  have hguess : 146097 * (day * 400 / 146097) ≤ 400 * day ∧
      400 * day < 146097 * (day * 400 / 146097) + 146097 := by omega
  simp only [yearOf]
  generalize day * 400 / 146097 = guess at hguess ⊢
  by_cases hlow : day < daysBefore guess
  · rw [if_pos hlow]
    obtain _ | guess := guess
    · exact absurd hlow (Nat.not_lt_zero day)
    have hnear := daysBefore_near guess
    rw [Nat.add_sub_cancel]
    exact ⟨by omega, hlow⟩
  · rw [if_neg hlow]
    by_cases hhigh : daysBefore (guess + 1) ≤ day
    · rw [if_pos hhigh]
      have hnear := daysBefore_near (guess + 1 + 1)
      exact ⟨hhigh, by omega⟩
    · rw [if_neg hhigh]
      exact ⟨Nat.not_lt.mp hlow, Nat.not_le.mp hhigh⟩

/-! ## Months -/

theorem monthLengths_eq (year : Nat) :
    monthLengths year = (List.range 12).map fun m => monthLength year (m + 1) := by
  unfold monthLengths
  by_cases h : Leap year
  · simp [isLeap_iff.mpr h, h, List.range_succ, monthLength]
  · have hnot : isLeap year = false := by rw [← Bool.not_eq_true, isLeap_iff]; exact h
    simp [hnot, h, List.range_succ, monthLength]

theorem monthAndDay_spec {lengths : List Nat} {day : Nat} (h : day < lengths.sum) :
    (lengths.take (monthAndDay lengths day).1).sum + (monthAndDay lengths day).2 = day ∧
      ∃ length, lengths[(monthAndDay lengths day).1]? = some length ∧
        (monthAndDay lengths day).2 < length := by
  induction lengths generalizing day with
  | nil => exact absurd h (Nat.not_lt_zero day)
  | cons length lengths ih =>
    unfold monthAndDay
    by_cases hday : day < length
    · simp [hday]
    · rw [List.sum_cons] at h
      have hrest : day - length < lengths.sum := by omega
      obtain ⟨hsum, hlength⟩ := ih hrest
      simp only [if_neg hday, List.take_succ_cons, List.sum_cons, List.getElem?_cons_succ]
      exact ⟨by omega, hlength⟩

/-! ## Dates -/

theorem dateOf_spec (day : Nat) : (dateOf day).Valid ∧ (dateOf day).number = day := by
  obtain ⟨hfrom, hto⟩ := yearOf_spec day
  rw [total_succ] at hto
  have hyear : day - daysBefore (yearOf day) < (monthLengths (yearOf day)).sum := by
    have hsum : (monthLengths (yearOf day)).sum = yearLength (yearOf day) := by
      rw [monthLengths_eq, ← total_monthLength]
      rfl
    rw [hsum, daysBefore_eq]
    omega
  obtain ⟨htotal, length, hlength, hday⟩ := monthAndDay_spec hyear
  simp only [dateOf, Date.Valid, Date.number]
  generalize monthAndDay (monthLengths (yearOf day)) (day - daysBefore (yearOf day)) = found
    at htotal hlength hday ⊢
  obtain ⟨month, rest⟩ := found
  simp only at htotal hlength hday ⊢
  obtain ⟨hmonth, rfl⟩ := List.getElem?_eq_some_iff.mp hlength
  simp only [monthLengths_eq, List.length_map, List.length_range] at hmonth
  simp only [monthLengths_eq, List.getElem_map, List.getElem_range] at hday
  rw [monthLengths_eq, ← List.map_take, List.take_range, Nat.min_eq_left (Nat.le_of_lt hmonth),
    daysBefore_eq] at htotal
  refine ⟨⟨by omega, by omega, by omega, by omega⟩, ?_⟩
  have hmonths : total (fun m => monthLength (yearOf day) (m + 1)) month + rest =
      day - total yearLength (yearOf day) := htotal
  rw [Nat.add_sub_cancel, Nat.add_sub_cancel, Nat.add_assoc, hmonths]
  exact Nat.add_sub_cancel' hfrom

theorem number_newYear (year : Nat) : (Date.mk year 1 1).number = daysBefore year :=
  (daysBefore_eq year).symm

/-! ## Order -/

/-- The days of the months before a date and of its own month up to it are fewer
than the days of its year. -/
theorem Date.Valid.within {d : Date} (h : d.Valid) :
    total (fun m => monthLength d.year (m + 1)) (d.month - 1) + (d.day - 1) <
      yearLength d.year := by
  obtain ⟨hmonth, hmonth', hday, hday'⟩ := h
  have hbound : total (fun m => monthLength d.year (m + 1)) (d.month - 1) +
      monthLength d.year (d.month - 1 + 1) ≤ total (fun m => monthLength d.year (m + 1)) 12 :=
    total_add_le (by omega)
  rw [total_monthLength, Nat.sub_add_cancel hmonth] at hbound
  omega

/-- Of two dates the later one has the larger number. -/
theorem number_lt {d e : Date} (hd : d.Valid) (he : e.Valid)
    (h : [d.year, d.month, d.day] < [e.year, e.month, e.day]) : d.number < e.number := by
  have hwithin := hd.within
  obtain ⟨year, month, day⟩ := d
  obtain ⟨year', month', day'⟩ := e
  obtain ⟨hmonth, -, hday, hdays⟩ := hd
  obtain ⟨hmonth', -, hday', -⟩ := he
  simp only [Date.number] at hwithin ⊢
  simp only at hmonth hmonth' hday hday' hdays
  simp only [List.cons_lt_cons_iff, List.not_lt_nil, and_false, or_false] at h
  rcases h with hyears | ⟨rfl, hmonths | ⟨rfl, hdays'⟩⟩
  · have hyear := total_add_le (f := yearLength) hyears
    omega
  · have hmonths := total_add_le (f := fun m => monthLength year (m + 1))
      (m := month - 1) (n := month' - 1) (by omega)
    simp only [Nat.sub_add_cancel hmonth] at hmonths
    omega
  · omega

end RunTable.Calendar
