import RunTable.Proofs.Number.Rounding
import RunTable.Proofs.View.ShownRuns

/-! # Sorting by an integer

Integers compare by the numbers that are nearest to them, so two integers
compare as they are unless they have one nearest number (`order_of_integer`).
Such integers are equal, or `2 ^ 53` or more in size and at most one part in
`2 ^ 52` apart; of two runs with such values the first in the table is shown
first, whichever is the larger. Runs with any other two values are shown in the
order of the integers. -/

namespace RunTable

open Json

variable {x y : Cell} {m n : WideInt}

/-- The integer that a cell holds, if it holds one. -/
def Json.Cell.integer? (c : Cell) : Option WideInt :=
  match c.value with
  | .integer n => some n
  | _ => none

theorem Json.WideInt.natAbs_lt (n : WideInt) : n.val.natAbs < wordLimit := by
  have hlower := n.lower
  have hupper := n.upper
  unfold signedLimit at hlower
  unfold wordLimit at hupper ⊢
  omega

namespace Json.Cell

theorem value_of_integer (h : x.integer? = some n) : x.value = .integer n := by
  unfold integer? at h
  split at h
  · next heq => rw [heq, Option.some.inj h]
  · cases h

theorem rank?_of_integer (h : x.integer? = some n) :
    x.rank? = some (Double.signedPlace n.val) := by
  have hnumber : x.number? = some (.ofInt n.val) := by
    rw [number?, value_of_integer h]
  rw [rank?, hnumber, Option.bind_some, Extended.rank?_ofInt n.natAbs_lt]

/-- Integers compare as they are, unless they have one nearest number. -/
theorem order_of_integer (hx : x.integer? = some m) (hy : y.integer? = some n) :
    x.order y =
      if Extended.ofInt m.val = Extended.ofInt n.val then .eq else compare m.val n.val := by
  rw [order_of_rank (rank?_of_integer hx) (rank?_of_integer hy)]
  split
  · next hsame =>
    have hranks := congrArg Extended.rank? hsame
    rw [Extended.rank?_ofInt m.natAbs_lt, Extended.rank?_ofInt n.natAbs_lt] at hranks
    rw [Option.some.inj hranks]
    exact Std.ReflCmp.compare_self
  · next hdiffer =>
    have hplaces : Double.signedPlace m.val ≠ Double.signedPlace n.val := fun h =>
      hdiffer (Extended.ofInt_eq_of_signedPlace m.natAbs_lt n.natAbs_lt h)
    have hne : m.val ≠ n.val := fun h => hplaces (congrArg Double.signedPlace h)
    rcases Int.le_total m.val n.val with hle | hle
    · have hmono := Double.signedPlace_mono hle
      rw [Int.compare_eq_lt.mpr (by omega), Int.compare_eq_lt.mpr (by omega)]
    · have hmono := Double.signedPlace_mono hle
      rw [Int.compare_eq_gt.mpr (by omega), Int.compare_eq_gt.mpr (by omega)]

end Json.Cell

/-- The integer that a run is sorted by, if its value is one. -/
def SortKey.integer? (k : SortKey) (r : Run) : Option WideInt := (k.value? r).bind Cell.integer?

namespace SortSpec

variable {s : SortSpec} {stood : Prop} {a b : Run}

/-- A run has an integer to be sorted by, or no value. -/
def Integral (s : SortSpec) (r : Run) : Prop :=
  s.key.value? r = none ∨ (s.key.integer? r).isSome = true

/-- Whether one of two runs is shown before the other, going by their integers:
it has one and the other has none, or its integer comes first in the direction of
the sorting, or both have one nearest number or none at all and it `stood` before
the other. -/
def LeadsAsInteger (s : SortSpec) (stood : Prop) (a b : Run) : Prop :=
  match s.key.integer? a, s.key.integer? b with
  | some m, some n =>
    if Extended.ofInt m.val = Extended.ofInt n.val then stood
    else if s.ascending then m.val < n.val else n.val < m.val
  | some _, none => True
  | none, some _ => False
  | none, none => stood

theorem integral_iff : s.Integral a ↔
    (s.key.value? a = none ∧ s.key.integer? a = none) ∨
      ∃ x n, s.key.value? a = some x ∧ s.key.integer? a = some n ∧ x.integer? = some n := by
  unfold Integral SortKey.integer?
  cases s.key.value? a with
  | none => simp
  | some x => simp [Option.isSome_iff_exists]

theorem Integral.rank?_isSome (h : s.Integral a) (hx : s.key.value? a = some x) :
    x.rank?.isSome = true := by
  rcases integral_iff.mp h with ⟨hnone, -⟩ | ⟨y, n, hy, -, hn⟩
  · rw [hnone] at hx
    cases hx
  · rw [hy] at hx
    cases hx
    rw [Cell.rank?_of_integer hn]
    rfl

theorem Leads.asInteger (h : s.Leads stood a b) (ha : s.Integral a) (hb : s.Integral b) :
    s.LeadsAsInteger stood a b := by
  unfold Leads at h
  unfold LeadsAsInteger
  rcases integral_iff.mp ha with ⟨hx, hm⟩ | ⟨x, m, hx, hm, hxm⟩
  · rcases integral_iff.mp hb with ⟨hy, hn⟩ | ⟨y, n, hy, hn, -⟩
    · simpa only [hx, hy, hm, hn] using h
    · simp only [hx, hy] at h
  · rcases integral_iff.mp hb with ⟨hy, hn⟩ | ⟨y, n, hy, hn, hyn⟩
    · simp only [hm, hn]
    · simp only [hx, hy, Cell.order_of_integer hxm hyn] at h
      simp only [hm, hn]
      by_cases hsame : Extended.ofInt m.val = Extended.ofInt n.val
      · simpa [hsame] using h
      · have hne : m.val ≠ n.val := fun heq => hsame (congrArg Extended.ofInt heq)
        simpa [hsame, hne, Int.compare_eq_lt, Int.compare_eq_gt] using h

end SortSpec

namespace ViewState

/-- **Integers are shown in the order of their nearest numbers.** Where each
selected run has an integer to be sorted by, or no value, runs with an integer
are shown first, in the direction of the sorting; runs whose integers have one
nearest number, and runs without a value, stand as in the table. Each run has a
start time to be sorted by. Integers with one nearest number are equal, or large
and close together. -/
theorem visiblePlaces_by_nearest_number (s : ViewState) (runs : List Run) :
    let places := s.visiblePlaces runs
    (∀ i, i ∈ places ↔ ∃ r, runs[i]? = some r ∧ s.Selects r) ∧
      ((∀ r ∈ runs, s.Selects r → s.sort.Integral r) →
        places.Pairwise fun i j => ∀ a b, runs[i]? = some a → runs[j]? = some b →
          s.sort.LeadsAsInteger (i < j) a b) ∧
      (∀ r, ((SortKey.attribute .startTime).integer? r).map WideInt.val =
        some r.startTime.toInt) ∧
      ∀ m n : WideInt, Extended.ofInt m.val = Extended.ofInt n.val →
        m = n ∨ 2 ^ 53 ≤ m.val.natAbs ∧ 2 ^ 53 ≤ n.val.natAbs ∧
          (m.val - n.val).natAbs * 2 ^ 52 ≤ max m.val.natAbs n.val.natAbs := by
  intro places
  refine ⟨fun _ => mem_visiblePlaces, fun hintegral => ?_, fun _ => rfl, fun m n h => ?_⟩
  · have hvalues : ChainsOn Cell.order (s.sort.Values fun r => r ∈ runs ∧ s.Selects r) := by
      refine Cell.chainsOn_of_rank ?_
      rintro x ⟨r, ⟨hr, hselects⟩, hx⟩
      exact (hintegral r hr hselects).rank?_isSome hx
    have hshown : ∀ i ∈ places, ∀ a, runs[i]? = some a → s.sort.Integral a := by
      intro i hi a ha
      obtain ⟨r, hr, hselects⟩ := mem_visiblePlaces.mp hi
      obtain rfl : r = a := Option.some.inj (hr.symm.trans ha)
      exact hintegral r (List.mem_of_getElem? hr) hselects
    refine (pairwise_visiblePlaces hvalues).imp_of_mem ?_
    intro i j hi hj h a b ha hb
    exact (h a b ha hb).asInteger (hshown i hi a ha) (hshown j hj b hb)
  · refine (Extended.eq_or_close_of_ofInt_eq m.natAbs_lt n.natAbs_lt h).imp ?_ id
    intro hval
    cases m
    cases n
    cases hval
    rfl

/-- Two seeds have one nearest number, the first in the table being the smaller. -/
theorem visiblePlaces_by_nearest_number_seeds :
    let run (params : KeyMap Cell) : Run :=
      ⟨"", none, 0, none, "", "", "", .running, .active, params, .empty, .empty⟩
    let seed (n : WideInt) : Run := run (KeyMap.empty.insert "seed" (.integer n))
    let low : WideInt := ⟨18446744073709551614, by decide, by decide⟩
    let high : WideInt := ⟨18446744073709551615, by decide, by decide⟩
    let table := [run .empty, seed low, seed ⟨-5, by decide, by decide⟩, seed high]
    let s := { ViewState.initial with sort := ⟨.param "seed", false⟩ }
    (∀ r ∈ table, s.Selects r → s.sort.Integral r) ∧ s.visiblePlaces table = [1, 3, 2, 0] ∧
      s.sort.LeadsAsInteger (1 < 3) (seed low) (seed high) ∧
      Extended.ofInt low.val = Extended.ofInt high.val ∧
      (low.val - high.val).natAbs * 2 ^ 52 ≤ max low.val.natAbs high.val.natAbs := by
  intro run seed low high table s
  have hintegral : ∀ r ∈ table, s.Selects r → s.sort.Integral r := by
    intro r hr _
    simp only [table, List.mem_cons, List.not_mem_nil, or_false] at hr
    rcases hr with rfl | rfl | rfl | rfl
    · exact Or.inl rfl
    · exact Or.inr rfl
    · exact Or.inr rfl
    · exact Or.inr rfl
  obtain ⟨_, horder, _, hclose⟩ := visiblePlaces_by_nearest_number s table
  have hpairs := horder hintegral
  have hplaces : s.visiblePlaces table = [1, 3, 2, 0] := by decide +kernel
  have hsame : Extended.ofInt low.val = Extended.ofInt high.val := by decide +kernel
  refine ⟨hintegral, hplaces, ?_, hsame, ?_⟩
  · rw [hplaces] at hpairs
    exact (List.pairwise_cons.mp hpairs).1 3 (by simp) (seed low) (seed high) rfl rfl
  · rcases hclose low high hsame with heq | ⟨_, _, hnear⟩
    · exact absurd heq (by decide)
    · exact hnear

/-- The first of two runs starts a millisecond before the second, and yet it
stays first where the latest start is to come first. -/
theorem visiblePlaces_of_close_starts :
    let run (startTime : Int64) : Run :=
      ⟨"", none, startTime, none, "", "", "", .running, .active, .empty, .empty, .empty⟩
    let early := run 9007199254740992
    let late := run 9007199254740993
    early.startTime < late.startTime ∧
      ViewState.initial.visibleRuns [early, late] = [early, late] ∧
      ¬∀ runs, (ViewState.initial.visibleRuns runs).Pairwise fun a b =>
        b.startTime ≤ a.startTime := by
  intro run early late
  have hshown : ViewState.initial.visibleRuns [early, late] = [early, late] := by decide +kernel
  refine ⟨by decide, hshown, fun hordered => ?_⟩
  have h := hordered [early, late]
  rw [hshown] at h
  exact absurd ((List.pairwise_cons.mp h).1 late (by simp)) (by decide)

end ViewState

end RunTable
