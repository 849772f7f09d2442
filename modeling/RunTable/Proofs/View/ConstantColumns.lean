import RunTable.Proofs.View.DiffToggling
import RunTable.View.Constant
import RunTable.View.RowOrder
import RunTable.View.Visible

/-! # Diff view leaves out the constant columns

Each value is compared with that of the first run only. This decides all pairs,
since equal values are those with the same unsigned form. So the columns that
diff view hides are those that say the same of every run
(`mem_constantColumns`), and turning it on takes these from the visible columns
and changes nothing else. -/

namespace RunTable

/-- A column says the same of every run: all values of an attribute are equal,
or every run has the key and all values under it are equal. -/
def Constant (runs : List Run) : Category → String → Prop
  | .attributes, label => ∃ a : Attribute, a.label = label ∧
    ∀ q ∈ runs, ∀ r ∈ runs, (a.value q).same (a.value r) = true
  | c, key => (∀ r ∈ runs, key ∈ (r.cells c).keys) ∧
    ∀ q ∈ runs, ∀ r ∈ runs, ∀ v w, (q.cells c).get? key = some v → (r.cells c).get? key = some w →
      v.same w = true

variable {first : Run} {rest runs : List Run} {c : Category} {k : String}

/-! ## Comparing with the first run -/

theorem forall_eq_head {β : Type} (f : Run → β) :
    (∀ r ∈ rest, f r = f first) ↔ ∀ q ∈ first :: rest, ∀ r ∈ first :: rest, f q = f r := by
  constructor
  · intro h
    have head : ∀ r ∈ first :: rest, f r = f first := List.forall_mem_cons.mpr ⟨rfl, h⟩
    intro q hq r hr
    exact (head q hq).trans (head r hr).symm
  · intro h r hr
    exact h r (List.mem_cons_of_mem _ hr) first List.mem_cons_self

theorem Json.Cell.same_iff {v w : Json.Cell} :
    v.same w = true ↔ v.value.unsigned = w.value.unsigned := decide_eq_true_iff

theorem attributeConstant_iff {a : Attribute} :
    attributeConstant first rest a = true ↔
      ∀ q ∈ first :: rest, ∀ r ∈ first :: rest, (a.value q).same (a.value r) = true := by
  simp only [attributeConstant, List.all_eq_true, Json.Cell.same_iff]
  exact forall_eq_head fun r => (a.value r).value.unsigned

/-- What a run has under a key, the signs of zeros overlooked. -/
def Run.unsigned? (c : Category) (key : String) (r : Run) : Option Json.Value :=
  ((r.cells c).get? key).map (·.value.unsigned)

theorem keyConstant_iff :
    keyConstant first rest c k = true ↔
      (first.unsigned? c k).isSome = true ∧
        ∀ r ∈ rest, r.unsigned? c k = first.unsigned? c k := by
  unfold keyConstant Run.unsigned?
  cases (first.cells c).get? k with
  | none => simp
  | some v =>
    simp only [List.all_eq_true, Option.map_some, Option.isSome_some, true_and]
    refine forall_congr' fun r => forall_congr' fun _ => ?_
    cases (r.cells c).get? k with
    | none => simp
    | some w => simp [Json.Cell.same_iff]

theorem isSome_unsigned? {r : Run} : (r.unsigned? c k).isSome = true ↔ k ∈ (r.cells c).keys := by
  rw [Run.unsigned?, Option.isSome_map, KeyMap.mem_keys]

theorem unsigned?_eq_iff {q r : Run} (hq : k ∈ (q.cells c).keys) (hr : k ∈ (r.cells c).keys) :
    q.unsigned? c k = r.unsigned? c k ↔
      ∀ v w, (q.cells c).get? k = some v → (r.cells c).get? k = some w → v.same w = true := by
  obtain ⟨v, hv⟩ := Option.isSome_iff_exists.mp (KeyMap.mem_keys.mp hq)
  obtain ⟨w, hw⟩ := Option.isSome_iff_exists.mp (KeyMap.mem_keys.mp hr)
  simp [Run.unsigned?, hv, hw, Json.Cell.same_iff]

/-- A key is constant if every run has it, and the same under it as the first. -/
theorem keyConstant_iff_constant (hc : c ≠ .attributes) :
    keyConstant first rest c k = true ↔ Constant (first :: rest) c k := by
  have hconstant : Constant (first :: rest) c k ↔
      (∀ r ∈ first :: rest, k ∈ (r.cells c).keys) ∧
        ∀ q ∈ first :: rest, ∀ r ∈ first :: rest, ∀ v w, (q.cells c).get? k = some v →
          (r.cells c).get? k = some w → v.same w = true := by
    cases c with
    | attributes => exact absurd rfl hc
    | params | metrics | tags => exact Iff.rfl
  rw [keyConstant_iff, forall_eq_head (Run.unsigned? c k), hconstant]
  constructor
  · rintro ⟨hfirst, equal⟩
    have has : ∀ r ∈ first :: rest, k ∈ (r.cells c).keys := by
      intro r hr
      rw [← isSome_unsigned?, equal r hr first List.mem_cons_self]
      exact hfirst
    exact ⟨has, fun q hq r hr => (unsigned?_eq_iff (has q hq) (has r hr)).mp (equal q hq r hr)⟩
  · rintro ⟨has, same⟩
    refine ⟨isSome_unsigned?.mpr (has first List.mem_cons_self), fun q hq r hr => ?_⟩
    exact (unsigned?_eq_iff (has q hq) (has r hr)).mpr (same q hq r hr)

/-- The columns that diff view hides are those that say the same of every run. -/
theorem mem_constantColumns (hruns : runs ≠ []) (hk : k ∈ columnKeys runs c) :
    k ∈ (constantColumns runs).get c ↔ Constant runs c k := by
  obtain ⟨first, rest, rfl⟩ := List.exists_cons_of_ne_nil hruns
  rw [constantColumns, HiddenKeys.get_ofCategories]
  by_cases hc : c = .attributes
  · subst hc
    simp only [KeySet.mem_ofList, List.mem_map, List.mem_filter, attributeConstant_iff]
    constructor
    · rintro ⟨a, ⟨_, same⟩, hlabel⟩
      exact ⟨a, hlabel, same⟩
    · rintro ⟨a, hlabel, same⟩
      have hall : a ∈ Attribute.all := by cases a <;> simp [Attribute.all]
      exact ⟨a, ⟨hall, same⟩, hlabel⟩
  · rw [← keyConstant_iff_constant hc]
    cases c with
    | attributes => exact absurd rfl hc
    | params | metrics | tags =>
      rw [KeySet.mem_ofList, List.mem_filter]
      exact and_iff_right hk

/-! ## Turning diff view on -/

namespace ViewState

variable {s : ViewState}

/-- Turning diff view on takes from the visible columns those that it hides. -/
theorem visibleKeys_turnOn (h : s.columns.isOn = false) (constant : HiddenKeys)
    (runs : List Run) (c : Category) :
    (s.apply (.turnDiffOn constant)).visibleKeys runs c =
      (s.visibleKeys runs c).filter (!constant.contains c ·) := by
  have hhidden : (s.apply (.turnDiffOn constant)).columns.hidden =
      s.columns.hidden.union constant := by
    show (s.columns.turnOn constant).hidden = _
    rw [DiffSwitch.turnOn_of_off h]
  rw [visibleKeys, visibleKeys, List.filter_filter, hhidden]
  refine List.filter_congr fun k _ => ?_
  have hunion : (s.columns.hidden.union constant).contains c k =
      (s.columns.hidden.contains c k || constant.contains c k) := by
    rw [Bool.eq_iff_iff, Bool.or_eq_true]
    simp [HiddenKeys.contains, HiddenKeys.union]
  show (s.passes c k && !(s.columns.hidden.union constant).contains c k) = _
  rw [hunion, Bool.not_or]
  ac_rfl

theorem visibleKeys_turnOn_none (h : s.columns.isOn = false) (runs : List Run) (c : Category) :
    (s.apply (.turnDiffOn .none)).visibleKeys runs c = s.visibleKeys runs c := by
  rw [visibleKeys_turnOn h]
  refine List.filter_eq_self.mpr fun k _ => ?_
  cases c <;> rfl

end ViewState

namespace Store

variable {s : Store} {e : String}

theorem state_toggleDiff_of_off (h : (s.state e).columns.isOn = false) (runs : List Run) :
    (s.toggleDiff e runs).state e = (s.state e).apply (.turnDiffOn (s.constant runs)) := by
  show (s.call e (.toggleDiff runs)).state e = _
  rw [state_call, if_pos rfl, StoreCall.change, h]
  rfl

/-- **Diff view leaves out the constant columns and nothing else.** Where it is
turned on for some runs, a column is visible after that just if it was before
and does not say the same of every run. The other columns keep their order, and
every table shows the same runs as before. For no runs it leaves out nothing. -/
theorem toggleDiff_leaves_out_constant (s : Store) (e : String) (runs : List Run)
    (hdefault : s.constant = constantColumns) (hoff : (s.state e).columns.isOn = false) :
    let before := s.state e
    let after := (s.toggleDiff e runs).state e
    (runs ≠ [] → ∀ c,
      (after.visibleKeys runs c).Sublist (before.visibleKeys runs c) ∧
      ∀ k, k ∈ after.visibleKeys runs c ↔
        k ∈ before.visibleKeys runs c ∧ ¬Constant runs c k) ∧
    (∀ table, after.visibleRuns table = before.visibleRuns table) ∧
    (runs = [] → ∀ table c, after.visibleKeys table c = before.visibleKeys table c) := by
  intro before after
  have hafter : after = before.apply (.turnDiffOn (constantColumns runs)) := by
    rw [← hdefault]
    exact state_toggleDiff_of_off hoff runs
  rw [hafter]
  refine ⟨fun hruns c => ?_, fun table => rfl, ?_⟩
  · rw [ViewState.visibleKeys_turnOn hoff]
    refine ⟨List.filter_sublist, fun k => ?_⟩
    rw [List.mem_filter, Bool.not_eq_true', ← Bool.not_eq_true, HiddenKeys.contains,
      KeySet.contains_iff]
    refine and_congr_right fun hk => not_congr ?_
    exact mem_constantColumns hruns (List.mem_filter.mp hk).1
  · rintro rfl table c
    exact ViewState.visibleKeys_turnOn_none hoff table c

/-- One key with two values, one with the same value in both runs, and one that
only one run has; and no runs. -/
theorem toggleDiff_leaves_out_constant_params :
    let bare : Run :=
      ⟨"", none, 0, none, "", "", "", .running, .active, .empty, .empty, .empty⟩
    let both := { bare with
      params := (KeyMap.empty.insert "lr" (.text "1")).insert "seed" (.text "7") }
    let other := { bare with
      params := ((KeyMap.empty.insert "lr" (.text "2")).insert "seed" (.text "7")).insert "note"
        (.text "x") }
    let runs := [both, other]
    let s := empty constantColumns
    let before := s.state "a"
    let after := (s.toggleDiff "a" runs).state "a"
    s.constant = constantColumns ∧ before.columns.isOn = false ∧ runs ≠ [] ∧
      (after.visibleKeys runs .params).Sublist ["lr", "note", "seed"] ∧
      "lr" ∈ after.visibleKeys runs .params ∧ "note" ∈ after.visibleKeys runs .params ∧
      "seed" ∉ after.visibleKeys runs .params ∧ after.visibleRuns runs = before.visibleRuns runs ∧
      ((s.toggleDiff "a" []).state "a").visibleKeys runs .params = ["lr", "note", "seed"] := by
  intro bare both other runs s before after
  have hruns : runs ≠ [] := List.cons_ne_nil _ _
  have hbefore : before.visibleKeys runs .params = ["lr", "note", "seed"] := by decide +kernel
  have hcolumns : columnKeys runs .params = ["lr", "note", "seed"] := by decide +kernel
  have constant {k : String} (hk : k ∈ ["lr", "note", "seed"]) :
      Constant runs .params k ↔ k ∈ (constantColumns runs).get .params :=
    (mem_constantColumns hruns (hcolumns ▸ hk)).symm
  obtain ⟨hcolumn, hshown, _⟩ := toggleDiff_leaves_out_constant s "a" runs rfl rfl
  obtain ⟨hsublist, hmem⟩ := hcolumn hruns .params
  have hnone := (toggleDiff_leaves_out_constant s "a" [] rfl rfl).2.2 rfl runs .params
  rw [hbefore] at hsublist hmem
  refine ⟨rfl, rfl, hruns, hsublist, ?_, ?_, ?_, hshown runs, hnone.trans hbefore⟩
  · rw [hmem, constant (by decide)]
    decide +kernel
  · rw [hmem, constant (by decide)]
    decide +kernel
  · rw [hmem, constant (by decide)]
    decide +kernel

end Store

end RunTable
