import RunTable.Proofs.Text.Trimming
import RunTable.Proofs.View.CellOrder

/-! # The runs that are shown

Looking at the places of the shown runs tells apart runs that agree in
everything: each selected run is shown once for each place that it has in the
table. Where the values of the selected runs chain, any two shown runs stand as
the sorting asks, runs without a value last, and runs that compare equal as in
the table (`pairwise_placed`). So runs that are shown already stay as they
are. -/

namespace RunTable

variable {s : ViewState} {runs : List Run}

/-- Whether one of two runs is shown before the other: it has a value and the
other has none, or its value comes first in the direction of the sorting, or
neither comes first and it `stood` before the other. -/
def SortSpec.Leads (s : SortSpec) (stood : Prop) (a b : Run) : Prop :=
  match s.key.value? a, s.key.value? b with
  | some x, some y =>
    (if s.ascending then x.order y = .lt else x.order y = .gt) ∨ x.order y = .eq ∧ stood
  | some _, none => True
  | none, some _ => False
  | none, none => stood

theorem SortSpec.leads_of_order {s : SortSpec} {stood : Prop} {a b : Run}
    (h : s.order a b = .lt ∨ s.order a b = .eq ∧ stood) : s.Leads stood a b := by
  unfold Leads
  unfold order at h
  cases ha : s.key.value? a with
  | none => cases hb : s.key.value? b <;> simp_all
  | some x =>
    cases hb : s.key.value? b with
    | none => trivial
    | some y =>
      simp only [ha, hb] at h ⊢
      cases hdirection : s.ascending with
      | true => simpa [hdirection] using h
      | false => simpa [hdirection, Ordering.swap_eq_lt, Ordering.swap_eq_eq] using h

namespace ViewState

/-- A run is selected if it is at the stage that is shown, and the text that is
searched for is blank or stands in the identifier or the name of the run, blanks
around it and the case of letters aside. -/
def Selects (s : ViewState) (r : Run) : Prop :=
  let sought := Text.lower (Text.trim s.search.toList)
  r.stage = s.stage ∧
    ((∀ c ∈ s.search.toList, Text.blank c = true) ∨ sought <:+: Text.lower r.id.toList ∨
      ∃ name, r.name = some name ∧ sought <:+: Text.lower name.toList)

theorem selects_iff {r : Run} : s.selects r = true ↔ s.Selects r := by
  simp only [selects, Selects, needle, Bool.and_eq_true, decide_eq_true_eq, Bool.or_eq_true,
    Text.occurs_iff, Option.any_eq_true, List.isEmpty_iff]
  refine and_congr_right fun _ => ?_
  constructor
  · rintro ((hempty | hid) | hname)
    · right
      left
      rw [hempty]
      exact List.nil_infix
    · exact Or.inr (Or.inl hid)
    · exact Or.inr (Or.inr hname)
  · rintro (hblank | hid | hname)
    · left
      left
      rw [Text.trim, Text.trimBoth_eq_nil_iff.mpr hblank]
      rfl
    · exact Or.inl (Or.inr hid)
    · exact Or.inr hname

/-! ## Places -/

/-- The shown runs with their places in the table. -/
def placed (s : ViewState) (runs : List Run) : List (Run × Nat) :=
  sortStably (fun a b => s.sort.order a.1 b.1) (runs.zipIdx.filter fun a => s.selects a.1)

theorem fst_placed (s : ViewState) (runs : List Run) :
    (s.placed runs).map Prod.fst = s.visibleRuns runs := by
  have hfilter : (runs.zipIdx.filter fun a => s.selects a.1).map Prod.fst =
      runs.filter s.selects :=
    calc (runs.zipIdx.filter fun a => s.selects a.1).map Prod.fst
      _ = (runs.zipIdx.map Prod.fst).filter s.selects := by rw [List.filter_map]; rfl
      _ = runs.filter s.selects := by rw [List.zipIdx_map_fst]
  rw [placed, map_sortStably Prod.fst s.sort.order, hfilter, visibleRuns]

theorem mem_placed {a : Run × Nat} :
    a ∈ s.placed runs ↔ runs[a.2]? = some a.1 ∧ s.Selects a.1 := by
  rw [placed, (perm_sortStably _ _).mem_iff, List.mem_filter, List.mem_zipIdx_iff_getElem?,
    selects_iff]

theorem pairwise_snd_filter (s : ViewState) (runs : List Run) :
    (runs.zipIdx.filter fun a => s.selects a.1).Pairwise fun a b => a.2 < b.2 := by
  have hzip : runs.zipIdx.Pairwise fun a b => a.2 < b.2 := by
    have hrange : (runs.zipIdx.map Prod.snd).Pairwise (· < ·) := by
      rw [List.zipIdx_map_snd]
      exact List.pairwise_lt_range'
    exact List.pairwise_map.mp hrange
  exact hzip.filter _

instance : Std.OrientedCmp fun a b : Run × Nat => s.sort.order a.1 b.1 where
  eq_swap := Std.OrientedCmp.eq_swap (α := Run)

/-- Of two shown runs the first comes first by the order, or compares equal and
has the earlier place. -/
theorem pairwise_placed
    (hchain : ChainsOn s.sort.order fun r => r ∈ runs ∧ s.Selects r) :
    (s.placed runs).Pairwise
      (GoesBefore (fun a b => s.sort.order a.1 b.1) fun a b => a.2 < b.2) := by
  refine pairwise_sortStably ?_ (s.pairwise_snd_filter runs)
  have selected : ∀ a ∈ runs.zipIdx.filter fun a => s.selects a.1,
      a.1 ∈ runs ∧ s.Selects a.1 := by
    intro a ha
    obtain ⟨hmem, hselects⟩ := List.mem_filter.mp ha
    exact ⟨List.fst_mem_of_mem_zipIdx hmem, selects_iff.mp hselects⟩
  intro a b c ha hb hc
  exact hchain a.1 b.1 c.1 (selected a ha) (selected b hb) (selected c hc)

theorem mem_visiblePlaces {i : Nat} :
    i ∈ s.visiblePlaces runs ↔ ∃ r, runs[i]? = some r ∧ s.Selects r := by
  show i ∈ (s.placed runs).map Prod.snd ↔ _
  rw [List.mem_map]
  constructor
  · rintro ⟨a, ha, rfl⟩
    exact ⟨a.1, mem_placed.mp ha⟩
  · rintro ⟨r, hr⟩
    exact ⟨(r, i), mem_placed.mpr hr, rfl⟩

theorem pairwise_visiblePlaces
    (hvalues : ChainsOn Json.Cell.order (s.sort.Values fun r => r ∈ runs ∧ s.Selects r)) :
    (s.visiblePlaces runs).Pairwise fun i j => ∀ a b, runs[i]? = some a → runs[j]? = some b →
      s.sort.Leads (i < j) a b := by
  show ((s.placed runs).map Prod.snd).Pairwise _
  rw [List.pairwise_map]
  refine (pairwise_placed (SortSpec.chainsOn_of_values hvalues)).imp_of_mem ?_
  intro p q hp hq h a b ha hb
  rw [(mem_placed.mp hp).1] at ha
  rw [(mem_placed.mp hq).1] at hb
  cases ha
  cases hb
  exact SortSpec.leads_of_order h

theorem perm_visibleRuns (s : ViewState) (runs : List Run) :
    (s.visibleRuns runs).Perm (runs.filter s.selects) :=
  perm_sortStably _ _

theorem visibleRuns_visibleRuns
    (hchain : ChainsOn s.sort.order fun r => r ∈ runs ∧ s.Selects r) :
    s.visibleRuns (s.visibleRuns runs) = s.visibleRuns runs := by
  have hselected : (s.visibleRuns runs).filter s.selects = s.visibleRuns runs := by
    refine List.filter_eq_self.mpr fun r hr => ?_
    exact (List.mem_filter.mp ((s.perm_visibleRuns runs).mem_iff.mp hr)).2
  have hordered : (s.visibleRuns runs).Pairwise fun a b => (s.sort.order a b).isLE = true := by
    rw [← fst_placed, List.pairwise_map]
    exact (pairwise_placed hchain).imp GoesBefore.isLE
  show sortStably s.sort.order ((s.visibleRuns runs).filter s.selects) = s.visibleRuns runs
  rw [hselected, sortStably_eq_self hordered]

/-- **The selected runs are shown, in order.** Each selected run is shown once
for each of its places in the table, and no other run is. Where the values that
the selected runs are sorted by chain, as they do if they are all defined numbers
and if none is a number, runs with a value come first, in the direction of the
sorting, and runs without a value or with equal ones stand as in the table; and
runs that are shown already are shown as they are. -/
theorem visibleRuns_selected_in_order (s : ViewState) (runs : List Run) :
    let shown := s.visibleRuns runs
    let places := s.visiblePlaces runs
    let values := s.sort.Values fun r => r ∈ runs ∧ s.Selects r
    shown.map some = places.map (runs[·]?) ∧ places.Nodup ∧
      (∀ i, i ∈ places ↔ ∃ r, runs[i]? = some r ∧ s.Selects r) ∧
      (∀ r, (s.Selects r → shown.count r = runs.count r) ∧ (r ∈ shown → s.Selects r)) ∧
      ((∀ x, values x → x.rank?.isSome = true) ∨ (∀ x, values x → x.number? = none) →
        ChainsOn Json.Cell.order values) ∧
      (ChainsOn Json.Cell.order values →
        (places.Pairwise fun i j => ∀ a b, runs[i]? = some a → runs[j]? = some b →
          s.sort.Leads (i < j) a b) ∧
        s.visibleRuns shown = shown) := by
  intro shown places values
  have hshown : shown = (s.placed runs).map Prod.fst := (s.fst_placed runs).symm
  have hplaces : places = (s.placed runs).map Prod.snd := rfl
  have hperm : shown.Perm (runs.filter s.selects) := s.perm_visibleRuns runs
  refine ⟨?_, ?_, fun _ => mem_visiblePlaces, fun r => ⟨fun hr => ?_, fun hr => ?_⟩, ?_,
    fun hvalues => ⟨pairwise_visiblePlaces hvalues, ?_⟩⟩
  · rw [hshown, hplaces, List.map_map, List.map_map]
    refine List.map_congr_left fun a ha => ?_
    exact (mem_placed.mp ha).1.symm
  · have hsnd := (perm_sortStably (fun a b => s.sort.order a.1 b.1)
      (runs.zipIdx.filter fun a => s.selects a.1)).map Prod.snd
    refine hsnd.nodup_iff.mpr ?_
    exact List.pairwise_map.mpr ((s.pairwise_snd_filter runs).imp Nat.ne_of_lt)
  · rw [hperm.count_eq, List.count_filter (selects_iff.mpr hr)]
  · exact selects_iff.mp (List.mem_filter.mp (hperm.mem_iff.mp hr)).2
  · rintro (hrank | hnone)
    · exact Json.Cell.chainsOn_of_rank hrank
    · exact Json.Cell.chainsOn_of_apart fun x _ hx _ _ => Or.inl (hnone x hx)
  · exact visibleRuns_visibleRuns (SortSpec.chainsOn_of_values hvalues)

/-- Nine is written in two ways, a run has no value, one is deleted, and one is
not searched for. -/
theorem visibleRuns_selected_in_order_descending :
    let run (id : String) (params : KeyMap Json.Cell) : Run :=
      ⟨id, none, 0, none, "", "", "", .running, .active, params, .empty, .empty⟩
    let value (v : String) : KeyMap Json.Cell := KeyMap.empty.insert "k" (.text v)
    let nine := run "r1" (value "9")
    let nineAgain := run "r4" (value "9.0")
    let table := [nine, run "R2" (value "10"), run "r3" .empty, nineAgain,
      { run "r5" .empty with stage := .deleted }, run "x6" (value "x")]
    let s := { ViewState.initial with search := " r", sort := ⟨.param "k", false⟩ }
    let shown := s.visibleRuns table
    let values := s.sort.Values fun r => r ∈ table ∧ s.Selects r
    (∀ x, values x → x.rank?.isSome = true) ∧ ChainsOn Json.Cell.order values ∧
      s.visiblePlaces table = [1, 0, 3, 2] ∧ s.sort.Leads (0 < 3) nine nineAgain ∧
      s.visibleRuns shown = shown := by
  intro run value nine nineAgain table s shown values
  have hrank : ∀ x, values x → x.rank?.isSome = true := by
    rintro x ⟨r, ⟨hr, hselects⟩, hx⟩
    rw [← selects_iff] at hselects
    simp only [table, List.mem_cons, List.not_mem_nil, or_false] at hr
    rcases hr with rfl | rfl | rfl | rfl | rfl | rfl
    · cases hx
      decide +kernel
    · cases hx
      decide +kernel
    · cases hx
    · cases hx
      decide +kernel
    · cases hx
    · exact absurd hselects (by decide +kernel)
  obtain ⟨_, _, _, _, hkinds, horder⟩ := visibleRuns_selected_in_order s table
  have hchain := hkinds (Or.inl hrank)
  obtain ⟨hpairs, hagain⟩ := horder hchain
  have hplaces : s.visiblePlaces table = [1, 0, 3, 2] := by decide +kernel
  refine ⟨hrank, hchain, hplaces, ?_, hagain⟩
  rw [hplaces] at hpairs
  have hrest := (List.pairwise_cons.mp hpairs).2
  exact (List.pairwise_cons.mp hrest).1 3 (by simp) nine nineAgain rfl rfl

end ViewState

end RunTable
