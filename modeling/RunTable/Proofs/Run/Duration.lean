import Mathlib.Algebra.Order.Ring.Int
import RunTable.Export.Sheet

/-! # The duration of a run, as a value and as a cell

The value is a difference that is given up where it does not fit into 64 bits or
is negative; the cell is a bare difference behind a guard. What passes the guard
fits (`toInt_sub_of_inOrder`), and what the guard holds back is just what the
value gives up (`Run.duration?_eq_none_iff`). -/

namespace RunTable

open Json

theorem durationText_ne_empty (ms : Int64) : durationText ms ≠ "" := by
  unfold durationText
  split
  · simp
  · simp [tenthsText]

variable {start stop : Int64}

/-- A difference fits if it is taken of an end that is not before a positive
start. -/
theorem toInt_sub_of_inOrder (hstart : 0 < start) (h : start ≤ stop) :
    (stop - start).toInt = stop.toInt - start.toInt :=
  Int64.toInt_sub_of_le stop start (Int64.le_of_lt hstart) h

theorem subtract?_of_inOrder (hstart : 0 < start) (h : start ≤ stop) :
    subtract? stop start = some (stop - start) := by
  have hexact := toInt_sub_of_inOrder hstart h
  have hlower := (stop - start).le_toInt
  have hupper := (stop - start).toInt_lt
  rw [subtract?, ← hexact, if_pos ⟨hlower, hupper⟩, Int64.ofInt_toInt]

/-- If the end is before the start, a difference that fits is negative. -/
theorem lt_zero_of_subtract? {d : Int64} (h : stop < start) (hd : subtract? stop start = some d) :
    d < 0 := by
  simp only [subtract?, Option.ite_none_right_eq_some, Option.some.injEq] at hd
  obtain ⟨⟨hlower, hupper⟩, rfl⟩ := hd
  rw [Int64.lt_iff_toInt_lt, Int64.toInt_ofInt_of_le hlower hupper]
  exact Int.sub_neg_of_lt (Int64.lt_iff_toInt_lt.mp h)

namespace Run

variable {r : Run}

theorem duration?_of_inOrder (hstop : r.endTime = some stop) (hstart : 0 < r.startTime)
    (h : r.startTime ≤ stop) : r.duration? = some (stop - r.startTime) := by
  have hpositive : 0 ≤ stop - r.startTime := by
    have hle := Int64.le_iff_toInt_le.mp h
    rw [Int64.le_iff_toInt_le, toInt_sub_of_inOrder hstart h]
    exact Int.sub_nonneg_of_le hle
  simp [duration?, hstop, hstart, subtract?_of_inOrder hstart h, hpositive]

/-- A run has no duration if it has no end, no positive start, or an end before
its start. -/
theorem duration?_eq_none_iff : r.duration? = none ↔
    r.endTime = none ∨ r.startTime ≤ 0 ∨ ∃ stop, r.endTime = some stop ∧ stop < r.startTime := by
  cases hstop : r.endTime with
  | none => simp [duration?, hstop]
  | some stop =>
    by_cases hstart : 0 < r.startTime
    · have hnot : ¬r.startTime ≤ 0 := Int64.not_le.mpr hstart
      by_cases h : r.startTime ≤ stop
      · simp [duration?_of_inOrder hstop hstart h, hnot, Int64.not_lt.mpr h]
      · have hlt : stop < r.startTime := Int64.not_le.mp h
        have hnone : (subtract? stop r.startTime).filter (0 ≤ ·) = none := by
          rw [Option.filter_eq_none_iff]
          intro d hd
          simpa using lt_zero_of_subtract? hlt hd
        simp [duration?, hstop, hstart, hnone, hlt]
    · simp [duration?, hstop, hstart, Int64.not_lt.mp hstart]

end Run

namespace Attribute

variable {r : Run}

theorem value_duration_eq_null_iff : duration.value r = .null ↔ r.duration? = none := by
  cases hd : r.duration? with
  | none => simp [value, hd]
  | some d =>
    have hne : Cell.ofInt64 d ≠ .null := fun h => by cases congrArg Cell.value h
    simp [value, hd, hne]

theorem cellText_duration (r : Run) : duration.cellText r = r.duration?.elim "" durationText := by
  cases hstop : r.endTime with
  | none => simp [cellText, Run.duration?, hstop]
  | some stop =>
    by_cases h : 0 < r.startTime ∧ r.startTime ≤ stop
    · simp [cellText, hstop, h, Run.duration?_of_inOrder hstop h.1 h.2]
    · have hnone : r.duration? = none := by
        rw [Run.duration?_eq_none_iff]
        by_cases hstart : 0 < r.startTime
        · exact Or.inr (Or.inr ⟨stop, hstop, Int64.not_le.mp fun hle => h ⟨hstart, hle⟩⟩)
        · exact Or.inr (Or.inl (Int64.not_lt.mp hstart))
      simp only [cellText, hstop, if_neg h, hnone, Option.elim_none]

/-- **The cell tells the duration that is the value.** Both are missing just if
the run has no end, no positive start, or an end before its start. If there are
both, the value is the exact difference of end and start, which is not negative
and fits into 64 bits, and the cell shows it. -/
theorem duration_told_alike (r : Run) :
    (duration.cellText r = "" ↔ duration.value r = .null) ∧
    (duration.value r = .null ↔
      r.endTime = none ∨ r.startTime.toInt ≤ 0 ∨
        ∃ stop, r.endTime = some stop ∧ stop.toInt < r.startTime.toInt) ∧
    (duration.value r ≠ .null → ∃ (stop d : Int64) (n : WideInt),
      r.endTime = some stop ∧ n.val = stop.toInt - r.startTime.toInt ∧
      0 ≤ n.val ∧ n.val < 2 ^ 63 ∧ duration.value r = .integer n ∧
      d.toInt = n.val ∧ duration.cellText r = durationText d) := by
  refine ⟨?_, ?_, fun hvalue => ?_⟩
  · rw [value_duration_eq_null_iff, cellText_duration]
    cases r.duration? with
    | none => simp
    | some d => simp [durationText_ne_empty]
  · rw [value_duration_eq_null_iff, Run.duration?_eq_none_iff]
    simp only [Int64.le_iff_toInt_le, Int64.lt_iff_toInt_lt, Int64.toInt_zero]
  · rw [Ne, value_duration_eq_null_iff, Run.duration?_eq_none_iff, not_or, not_or] at hvalue
    obtain ⟨hsome, hstart, horder⟩ := hvalue
    obtain ⟨stop, hstop⟩ := Option.ne_none_iff_exists'.mp hsome
    have hstart : 0 < r.startTime := Int64.not_le.mp hstart
    have h : r.startTime ≤ stop := Int64.not_lt.mp fun hlt => horder ⟨stop, hstop, hlt⟩
    have hduration := Run.duration?_of_inOrder hstop hstart h
    have hexact := toInt_sub_of_inOrder hstart h
    have hle := Int64.le_iff_toInt_le.mp h
    refine ⟨stop, stop - r.startTime, ⟨(stop - r.startTime).toInt, Int64.le_toInt _,
      Int.lt_trans (Int64.toInt_lt _) (by decide)⟩, hstop, hexact, ?_, Int64.toInt_lt _, ?_, rfl,
      ?_⟩
    · show 0 ≤ (stop - r.startTime).toInt
      rw [hexact]
      exact Int.sub_nonneg_of_le hle
    · rw [value, hduration]
      rfl
    · rw [cellText_duration, hduration, Option.elim_some]

/-- The longest duration of all. -/
theorem duration_told_alike_longest :
    let r : Run := ⟨"", none, 1, some 9223372036854775807, "", "", "", .running, .active,
      .empty, .empty, .empty⟩
    duration.value r ≠ .null ∧ ∃ (d : Int64) (n : WideInt), n.val = 9223372036854775806 ∧
      duration.value r = .integer n ∧ d.toInt = n.val ∧ duration.cellText r = durationText d := by
  intro r
  have hvalue : duration.value r ≠ .null := by decide
  obtain ⟨stop, d, n, hstop, hn, -, -, hinteger, hd, htext⟩ := (duration_told_alike r).2.2 hvalue
  obtain rfl := Option.some.inj hstop
  exact ⟨hvalue, d, n, hn, hinteger, hd, htext⟩

end Attribute

end RunTable
