import RunTable.Export.Sheet
import RunTable.Proofs.Json.Rendering
import RunTable.Proofs.View.ConstantSet

/-! # Constant columns and what they show

Whether a column is constant is decided by values, not by what is shown. The two
differ in two ways only. A string may show what another value shows; and a zero
shows its sign, which the comparison overlooks. So a column that every run shows
in the same way is constant if its values are of one kind, and a constant column
without negative zeros is shown in the same way by every run. -/

namespace RunTable

variable {runs : List Run} {c : Category} {k : String}

/-- Some run has the value under the key. -/
def Holds (runs : List Run) (c : Category) (k : String) (v : Json.Cell) : Prop :=
  ∃ r ∈ runs, (r.cells c).get? k = some v

/-- A column of cells is constant if every run has the key, with the same value. -/
theorem mem_constantColumns_iff_same (hruns : runs ≠ []) (hc : c ≠ .attributes) :
    k ∈ (constantColumns runs).get c ↔
      (∀ r ∈ runs, k ∈ (r.cells c).keys) ∧
        ∀ v w, Holds runs c k v → Holds runs c k w → v.same w = true := by
  have hequal : Constant runs c k ↔ (∀ r ∈ runs, k ∈ (r.cells c).keys) ∧
      ∀ q ∈ runs, ∀ r ∈ runs, ∀ v w, (q.cells c).get? k = some v →
        (r.cells c).get? k = some w → v.same w = true := by
    cases c with
    | attributes => exact absurd rfl hc
    | params | metrics | tags => exact Iff.rfl
  rw [mem_constantColumns_iff hruns, hequal]
  refine and_congr_right fun _ => ⟨?_, ?_⟩
  · rintro same v w ⟨q, hq, hv⟩ ⟨r, hr, hw⟩
    exact same q hq r hr v w hv hw
  · intro same q hq r hr v w hv hw
    exact same v w ⟨q, hq, hv⟩ ⟨r, hr, hw⟩

theorem cellText_of_get? {r : Run} {v : Json.Cell} (h : (r.cells c).get? k = some v) :
    r.cellText c k = v.render := by
  rw [Run.cellText, h]
  rfl

/-- Where every run has a key, the runs show it in the same way just if all values
under it are shown in the same way. -/
theorem cellText_eq_iff (h : ∀ r ∈ runs, k ∈ (r.cells c).keys) :
    (∀ q ∈ runs, ∀ r ∈ runs, q.cellText c k = r.cellText c k) ↔
      ∀ v w, Holds runs c k v → Holds runs c k w → v.render = w.render := by
  constructor
  · rintro alike v w ⟨q, hq, hv⟩ ⟨r, hr, hw⟩
    rw [← cellText_of_get? hv, ← cellText_of_get? hw]
    exact alike q hq r hr
  · intro alike q hq r hr
    obtain ⟨v, hv⟩ := Option.isSome_iff_exists.mp (KeyMap.mem_keys.mp (h q hq))
    obtain ⟨w, hw⟩ := Option.isSome_iff_exists.mp (KeyMap.mem_keys.mp (h r hr))
    rw [cellText_of_get? hv, cellText_of_get? hw]
    exact alike v w ⟨q, hq, hv⟩ ⟨r, hr, hw⟩

/-- **When a column that reads alike is constant.** A column is constant just if
every run has it, all its values are strings or none is, and all are shown in the
same way, the signs of zeros overlooked. So a column that every run has, and that
reads alike throughout the sheet, is constant unless a string stands in it beside
a value of another kind; and a constant column reads alike throughout unless there
is a negative zero in it. -/
theorem constantColumns_by_text (runs : List Run) (hruns : runs ≠ []) (c : Category)
    (hc : c ≠ .attributes) (k : String) :
    let everywhere := ∀ r ∈ runs, k ∈ (r.cells c).keys
    let alike := ∀ q ∈ runs, ∀ r ∈ runs, q.cellText c k = r.cellText c k
    let ofOneKind := ∀ v w, Holds runs c k v → Holds runs c k w → v.isString = w.isString
    (k ∈ (constantColumns runs).get c ↔ everywhere ∧ ofOneKind ∧
      ∀ v w, Holds runs c k v → Holds runs c k w → v.unsigned.render = w.unsigned.render) ∧
    (everywhere → alike → ofOneKind → k ∈ (constantColumns runs).get c) ∧
    (k ∈ (constantColumns runs).get c → (∀ v, Holds runs c k v → v.unsigned = v) →
      everywhere ∧ alike) := by
  intro everywhere alike ofOneKind
  have hconstant := mem_constantColumns_iff_same (k := k) hruns hc
  refine ⟨?_, fun has hshown hkind => ?_, fun h unsigned => ?_⟩
  · rw [hconstant]
    simp only [Json.Cell.same_iff_render]
    refine and_congr_right fun _ => ⟨fun h => ?_, fun ⟨hkind, hshown⟩ => ?_⟩
    · exact ⟨fun v w hv hw => (h v w hv hw).1, fun v w hv hw => (h v w hv hw).2⟩
    · exact fun v w hv hw => ⟨hkind v w hv hw, hshown v w hv hw⟩
  · refine hconstant.mpr ⟨has, fun v w hv hw => ?_⟩
    have hrender := (cellText_eq_iff has).mp hshown v w hv hw
    rw [Json.Cell.eq_of_render (hkind v w hv hw) hrender]
    exact Json.Cell.same_iff_unsigned.mpr rfl
  · obtain ⟨has, same⟩ := hconstant.mp h
    refine ⟨has, (cellText_eq_iff has).mpr fun v w hv hw => ?_⟩
    have hequal := Json.Cell.same_iff_unsigned.mp (same v w hv hw)
    rw [← unsigned v hv, ← unsigned w hw, hequal]

/-- A key under which both runs have the same list. -/
theorem constantColumns_by_text_list :
    let bare : Run :=
      ⟨"", none, 0, none, "", "", "", .running, .active, .empty, .empty, .empty⟩
    let list : Json.Cell := ⟨.array [.string "1", .null], trivial, trivial, trivial⟩
    let first := { bare with params := (KeyMap.empty.insert "k" (.text "a")).insert "x" list }
    let second := { bare with params := KeyMap.empty.insert "x" list }
    let runs := [first, second]
    runs ≠ [] ∧ Category.params ≠ .attributes ∧
      (∀ q ∈ runs, ∀ r ∈ runs, q.cellText .params "x" = r.cellText .params "x") ∧
      (∀ v, Holds runs .params "x" v → v.isString = false ∧ v.unsigned = v) ∧
      "x" ∈ (constantColumns runs).get .params ∧ "k" ∉ (constantColumns runs).get .params := by
  intro bare list first second runs
  have hruns : runs ≠ [] := List.cons_ne_nil _ _
  have hc : Category.params ≠ .attributes := by decide
  have holds : ∀ v, Holds runs .params "x" v → v = list := by
    rintro v ⟨r, hr, hv⟩
    simp only [runs, List.mem_cons, List.not_mem_nil, or_false] at hr
    rcases hr with rfl | rfl <;> cases hv <;> rfl
  have hplain : ∀ v, Holds runs .params "x" v → v.isString = false ∧ v.unsigned = v := by
    intro v hv
    rw [holds v hv]
    exact ⟨rfl, rfl⟩
  obtain ⟨_, hconstant, halike⟩ := constantColumns_by_text runs hruns .params hc "x"
  have hx : "x" ∈ (constantColumns runs).get .params := by
    refine hconstant (by decide) (by decide) fun v w hv hw => ?_
    rw [(hplain v hv).1, (hplain w hw).1]
  refine ⟨hruns, hc, (halike hx fun v hv => (hplain v hv).2).2, hplain, hx, fun hk => ?_⟩
  have has := ((constantColumns_by_text runs hruns .params hc "k").1.mp hk).1
  exact absurd (has second (by simp [runs])) (by decide)

/-- The string `1` beside the number reads alike and is not constant; a zero
beside a negative one is constant and does not read alike. -/
theorem constantColumns_unlike_text :
    let bare : Run :=
      ⟨"", none, 0, none, "", "", "", .running, .active, .empty, .empty, .empty⟩
    let minusZero : Json.Cell := ⟨.double ⟨true, 0, Double.places_pos⟩, trivial⟩
    let first := { bare with
      params := (KeyMap.empty.insert "n" (.text "1")).insert "z" minusZero }
    let second := { bare with
      params := (KeyMap.empty.insert "n" (.integer ⟨1, by decide, by decide⟩)).insert "z"
        ⟨.double .zero, trivial⟩ }
    let runs := [first, second]
    (∀ q ∈ runs, ∀ r ∈ runs, q.cellText .params "n" = r.cellText .params "n") ∧
      "n" ∉ (constantColumns runs).get .params ∧
      "z" ∈ (constantColumns runs).get .params ∧
      first.cellText .params "z" = "-0.0" ∧ second.cellText .params "z" = "0.0" ∧
      ¬∀ runs : List Run, runs ≠ [] → ∀ c, c ≠ .attributes → ∀ k,
        k ∈ (constantColumns runs).get c ↔ (∀ r ∈ runs, k ∈ (r.cells c).keys) ∧
          ∀ q ∈ runs, ∀ r ∈ runs, q.cellText c k = r.cellText c k := by
  intro bare minusZero first second runs
  have halike : ∀ q ∈ runs, ∀ r ∈ runs, q.cellText .params "n" = r.cellText .params "n" := by
    decide +kernel
  have hn : "n" ∉ (constantColumns runs).get .params := by decide
  refine ⟨halike, hn, by decide, by decide, by decide, fun hclaim => hn ?_⟩
  exact (hclaim runs (List.cons_ne_nil _ _) .params (by decide) "n").mpr
    ⟨by decide, halike⟩

end RunTable
