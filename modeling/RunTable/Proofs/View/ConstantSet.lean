import RunTable.Proofs.Json.Equality
import RunTable.Proofs.View.ConstantColumns

/-! # Which columns are constant

A column of a table that has runs is constant just if it says the same of every
two of them (`mem_constantColumns_iff`). This speaks of the runs as a set: it
does not matter how they are ordered and how often one stands in the table, and
more runs can only make fewer columns constant. -/

namespace RunTable

variable {runs others : List Run} {c : Category} {k : String}

theorem Constant.of_subset (h : Constant runs c k) (hsub : others ⊆ runs) :
    Constant others c k := by
  cases c with
  | attributes =>
    obtain ⟨a, hlabel, same⟩ := h
    exact ⟨a, hlabel, fun q hq r hr => same q (hsub hq) r (hsub hr)⟩
  | params | metrics | tags =>
    obtain ⟨has, same⟩ := h
    exact ⟨fun r hr => has r (hsub hr), fun q hq r hr => same q (hsub hq) r (hsub hr)⟩

/-- What is constant over some runs is a column of theirs. -/
theorem Constant.mem_columns (h : Constant runs c k) (hruns : runs ≠ []) :
    k ∈ columnKeys runs c := by
  cases c with
  | attributes =>
    obtain ⟨a, rfl, _⟩ := h
    cases a <;> simp [columnKeys, Attribute.all]
  | params | metrics | tags =>
    obtain ⟨r, hr⟩ := List.exists_mem_of_ne_nil runs hruns
    exact (mem_columnKeys (by decide)).mpr ⟨r, hr, h.1 r hr⟩

theorem mem_columnKeys_of_mem_constantColumns (h : k ∈ (constantColumns runs).get c) :
    k ∈ columnKeys runs c := by
  cases runs with
  | nil => cases c <;> cases h
  | cons first rest =>
    rw [constantColumns, HiddenKeys.get_ofCategories] at h
    cases c with
    | attributes =>
      obtain ⟨a, ha, rfl⟩ := List.mem_map.mp (KeySet.mem_ofList.mp h)
      exact List.mem_map_of_mem (List.mem_filter.mp ha).1
    | params | metrics | tags => exact (List.mem_filter.mp (KeySet.mem_ofList.mp h)).1

theorem mem_constantColumns_iff (hruns : runs ≠ []) :
    k ∈ (constantColumns runs).get c ↔ Constant runs c k := by
  constructor
  · intro h
    exact (mem_constantColumns hruns (mem_columnKeys_of_mem_constantColumns h)).mp h
  · intro h
    exact (mem_constantColumns hruns (h.mem_columns hruns)).mpr h

theorem constantColumns_congr (hsub : others ⊆ runs) (hsup : runs ⊆ others) :
    constantColumns others = constantColumns runs := by
  cases runs with
  | nil => rw [List.subset_nil.mp hsub]
  | cons first rest =>
    have hruns : first :: rest ≠ [] := List.cons_ne_nil first rest
    have hothers : others ≠ [] := List.ne_nil_of_mem (hsup List.mem_cons_self)
    refine HiddenKeys.ext_get fun c => KeySet.ext fun k => ?_
    rw [mem_constantColumns_iff hothers, mem_constantColumns_iff hruns]
    exact ⟨fun h => h.of_subset hsup, fun h => h.of_subset hsub⟩

/-- **The constant columns of a table are those with equal values throughout.**
A key is constant just if every run has it and every two values under it are
equal, an attribute just if every two values of it are equal, and where runs are
added none becomes constant. No column of a table without runs is constant. Two
tables with the same runs, in whatever order and however often, have the same
constant columns. -/
theorem constantColumns_equal_throughout (runs : List Run) :
    constantColumns [] = .none ∧
    (∀ others : List Run, (∀ r, r ∈ others ↔ r ∈ runs) →
      constantColumns others = constantColumns runs) ∧
    (runs ≠ [] →
      (∀ c, c ≠ .attributes → ∀ k, k ∈ (constantColumns runs).get c ↔
        (∀ r ∈ runs, k ∈ (r.cells c).keys) ∧
          ∀ q ∈ runs, ∀ r ∈ runs, ∀ v w, (q.cells c).get? k = some v →
            (r.cells c).get? k = some w → v.value.Equal w.value) ∧
      (∀ k, k ∈ (constantColumns runs).get .attributes ↔
        ∃ a : Attribute, a.label = k ∧
          ∀ q ∈ runs, ∀ r ∈ runs, (a.value q).value.Equal (a.value r).value) ∧
      ∀ more c k, k ∈ (constantColumns (runs ++ more)).get c →
        k ∈ (constantColumns runs).get c) := by
  refine ⟨rfl, fun others h => ?_,
    fun hruns => ⟨fun c hc k => ?_, fun k => ?_, fun more c k h => ?_⟩⟩
  · exact constantColumns_congr (fun r => (h r).mp) (fun r => (h r).mpr)
  · rw [mem_constantColumns_iff hruns]
    simp only [← Json.Cell.same_iff_equal]
    cases c with
    | attributes => exact absurd rfl hc
    | params | metrics | tags => exact Iff.rfl
  · rw [mem_constantColumns_iff hruns]
    simp only [← Json.Cell.same_iff_equal]
    exact Iff.rfl
  · have hmore : runs ++ more ≠ [] := List.append_ne_nil_of_left_ne_nil hruns more
    rw [mem_constantColumns_iff hmore] at h
    rw [mem_constantColumns_iff hruns]
    exact h.of_subset (List.subset_append_left runs more)

/-- Lists of zeros with different signs, an integer beside a floating-point
number, and a run that has neither. -/
theorem constantColumns_equal_throughout_zeros :
    let bare : Run :=
      ⟨"", none, 0, none, "", "", "", .running, .active, .empty, .empty, .empty⟩
    let minusZero : Json.Cell :=
      ⟨.array [.double ⟨true, 0, Double.places_pos⟩], trivial, trivial⟩
    let plusZero : Json.Cell := ⟨.array [.double .zero], trivial, trivial⟩
    let first := { bare with
      params := (KeyMap.empty.insert "x" minusZero).insert "n" (.integer ⟨0, by decide, by decide⟩) }
    let second := { bare with
      params := (KeyMap.empty.insert "x" plusZero).insert "n" ⟨.double .zero, trivial⟩ }
    let runs := [first, second]
    runs ≠ [] ∧ "x" ∈ (constantColumns runs).get .params ∧
      (∀ q ∈ runs, ∀ r ∈ runs, ∀ v w, (q.cells .params).get? "x" = some v →
        (r.cells .params).get? "x" = some w → v.value.Equal w.value) ∧
      "n" ∉ (constantColumns runs).get .params ∧
      constantColumns [second, first, second] = constantColumns runs ∧
      "x" ∉ (constantColumns (runs ++ [bare])).get .params := by
  intro bare minusZero plusZero first second runs
  have hruns : runs ≠ [] := List.cons_ne_nil _ _
  obtain ⟨_, hset, hsome⟩ := constantColumns_equal_throughout runs
  obtain ⟨hkeyed, _, _⟩ := hsome hruns
  have hx : "x" ∈ (constantColumns runs).get .params := by decide +kernel
  have hequal := (hkeyed .params (by decide) "x").mp hx
  refine ⟨hruns, hx, hequal.2, ?_, ?_, ?_⟩
  · intro hn
    have h := ((hkeyed .params (by decide) "n").mp hn).2 first (by simp [runs]) second
      (by simp [runs]) _ _ rfl rfl
    exact h
  · refine hset _ fun r => ?_
    simp only [runs, List.mem_cons, List.not_mem_nil, or_false]
    rw [or_left_comm, or_self]
  · intro hx
    have hmore : runs ++ [bare] ≠ [] := List.cons_ne_nil _ _
    obtain ⟨_, _, hsomeMore⟩ := constantColumns_equal_throughout (runs ++ [bare])
    have h := ((hsomeMore hmore).1 .params (by decide) "x").mp hx
    exact absurd (h.1 bare (by simp)) (by decide)

end RunTable
