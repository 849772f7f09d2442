import RunTable.Proofs.View.StableSort

/-! # How cells compare

Two cells that are numbers compare as numbers, any other two by what they show.
The other way round they always compare the other way round, but a number can
come before a text that comes before a smaller number, and the undefined number
is equal to all others. So the comparison chains where only one of the two ways
of comparing is used: on numbers that are all defined, and where no two cells
are numbers. -/

namespace RunTable

open Json

variable {x y : Cell}

instance : Std.TransCmp textOrder :=
  inferInstanceAs (Std.TransCmp (compare : String → String → Ordering))

/-- The position of a cell in the order of numbers, if it is a defined one. -/
def Json.Cell.rank? (c : Cell) : Option Int := c.number?.bind Extended.rank?

namespace Json.Cell

theorem order_of_rank {m n : Int} (hx : x.rank? = some m) (hy : y.rank? = some n) :
    x.order y = compare m n := by
  obtain ⟨a, ha, hm⟩ := Option.bind_eq_some_iff.mp hx
  obtain ⟨b, hb, hn⟩ := Option.bind_eq_some_iff.mp hy
  simp [order, ha, hb, Extended.order, hm, hn]

theorem order_of_apart (h : x.number? = none ∨ y.number? = none) :
    x.order y = textOrder x.render y.render := by
  unfold order
  rcases h with h | h
  · rw [h]
  · rw [h]
    cases x.number? <;> rfl

theorem number_order_swap (a b : Extended) : b.order a = (a.order b).swap := by
  unfold Extended.order
  cases a.rank? with
  | none => cases b.rank? <;> rfl
  | some m =>
    cases b.rank? with
    | none => rfl
    | some n => exact (Int.compare_swap m n).symm

instance : Std.OrientedCmp order where
  eq_swap {x y} := by
    cases hx : x.number? with
    | none =>
      rw [order_of_apart (Or.inl hx), order_of_apart (Or.inr hx)]
      exact Std.OrientedCmp.eq_swap
    | some a =>
      cases hy : y.number? with
      | none =>
        rw [order_of_apart (Or.inl hy), order_of_apart (Or.inr hy)]
        exact Std.OrientedCmp.eq_swap
      | some b =>
        simp only [order, hx, hy]
        exact number_order_swap b a

/-! ## Where it chains -/

/-- Cells of which any two are compared in the same way: all are defined
numbers, or no two are numbers. -/
def ComparedOneWay (among : Cell → Prop) : Prop :=
  (∀ x, among x → x.rank?.isSome = true) ∨
    ∀ x y, among x → among y → x ≠ y → x.number? = none ∨ y.number? = none

theorem chainsOn_of_rank {among : Cell → Prop} (h : ∀ x, among x → x.rank?.isSome = true) :
    ChainsOn order among := by
  intro x y z hx hy hz hxy hyz
  obtain ⟨l, hl⟩ := Option.isSome_iff_exists.mp (h x hx)
  obtain ⟨m, hm⟩ := Option.isSome_iff_exists.mp (h y hy)
  obtain ⟨n, hn⟩ := Option.isSome_iff_exists.mp (h z hz)
  rw [order_of_rank hl hm] at hxy
  rw [order_of_rank hm hn] at hyz
  rw [order_of_rank hl hn]
  exact Std.TransCmp.isLE_trans hxy hyz

theorem chainsOn_of_apart {among : Cell → Prop}
    (h : ∀ x y, among x → among y → x ≠ y → x.number? = none ∨ y.number? = none) :
    ChainsOn order among := by
  have htext : ∀ x y, among x → among y → x.order y = textOrder x.render y.render := by
    intro x y hx hy
    by_cases hxy : x = y
    · have hnumber : y.order y = .eq := Std.ReflCmp.compare_self
      have htext : textOrder y.render y.render = .eq := Std.ReflCmp.compare_self
      rw [hxy, hnumber, htext]
    · exact order_of_apart (h x y hx hy hxy)
  intro x y z hx hy hz hxy hyz
  rw [htext x y hx hy] at hxy
  rw [htext y z hy hz] at hyz
  rw [htext x z hx hz]
  exact Std.TransCmp.isLE_trans hxy hyz

theorem ComparedOneWay.chainsOn {among : Cell → Prop} (h : ComparedOneWay among) :
    ChainsOn order among :=
  h.elim chainsOn_of_rank chainsOn_of_apart

end Json.Cell

namespace SortSpec

variable {s : SortSpec} {a b : Run}

/-- The values that some runs are sorted by. -/
def Values (s : SortSpec) (among : Run → Prop) (x : Cell) : Prop :=
  ∃ r, among r ∧ s.key.value? r = some x

theorem order_of_values (ha : s.key.value? a = some x) (hb : s.key.value? b = some y) :
    s.order a b = if s.ascending then x.order y else y.order x := by
  have hswap : y.order x = (x.order y).swap := Std.OrientedCmp.eq_swap
  simp [order, ha, hb, hswap]

instance : Std.OrientedCmp s.order where
  eq_swap {a b} := by
    cases ha : s.key.value? a with
    | none => cases hb : s.key.value? b <;> simp [order, ha, hb]
    | some x =>
      cases hb : s.key.value? b with
      | none => simp [order, ha, hb]
      | some y =>
        rw [order_of_values ha hb, order_of_values hb ha]
        split <;> exact Std.OrientedCmp.eq_swap

/-- Runs chain where their values do, in either direction. -/
theorem chainsOn_of_values {among : Run → Prop} (h : ChainsOn Cell.order (s.Values among)) :
    ChainsOn s.order among := by
  intro a b c ha hb hc hab hbc
  cases hz : s.key.value? c with
  | none => cases hx : s.key.value? a <;> simp [order, hx, hz]
  | some z =>
    cases hy : s.key.value? b with
    | none => simp [order, hy, hz] at hbc
    | some y =>
      cases hx : s.key.value? a with
      | none => simp [order, hx, hy] at hab
      | some x =>
        rw [order_of_values hx hy] at hab
        rw [order_of_values hy hz] at hbc
        rw [order_of_values hx hz]
        cases hdirection : s.ascending with
        | true =>
          rw [hdirection] at hab hbc
          exact h x y z ⟨a, ha, hx⟩ ⟨b, hb, hy⟩ ⟨c, hc, hz⟩ hab hbc
        | false =>
          rw [hdirection] at hab hbc
          exact h z y x ⟨c, hc, hz⟩ ⟨b, hb, hy⟩ ⟨a, ha, hx⟩ hbc hab

/-- **Runs are ordered where their values are compared in one way.** In either
direction two runs compare the other way round as the reverse of the one way.
Among runs whose values are all defined numbers, or no two of whose values are
numbers, a run that is not after a second, which is not after a third, is not
after the third. -/
theorem order_reverses_and_chains (s : SortSpec) :
    (∀ a b, s.order b a = (s.order a b).swap) ∧
      ∀ among : Run → Prop, Cell.ComparedOneWay (s.Values among) → ChainsOn s.order among :=
  ⟨fun _ _ => Std.OrientedCmp.eq_swap, fun _ h => chainsOn_of_values h.chainsOn⟩

/-- Two numbers, one of them as a text, and a run without a value. -/
theorem order_reverses_and_chains_numbers :
    let run (params : KeyMap Cell) : Run :=
      ⟨"", none, 0, none, "", "", "", .running, .active, params, .empty, .empty⟩
    let nine := run (KeyMap.empty.insert "k" (.integer ⟨9, by decide, by decide⟩))
    let ten := run (KeyMap.empty.insert "k" (.text " 1e1 "))
    let bare := run .empty
    let s : SortSpec := ⟨.param "k", false⟩
    Cell.ComparedOneWay (s.Values (· ∈ [nine, ten, bare])) ∧ s.order ten nine = .lt ∧
      s.order nine ten = .gt ∧ (s.order nine bare).isLE = true ∧
      (s.order ten bare).isLE = true := by
  intro run nine ten bare s
  have hvalues : Cell.ComparedOneWay (s.Values (· ∈ [nine, ten, bare])) := by
    left
    rintro x ⟨r, hr, hx⟩
    simp only [List.mem_cons, List.not_mem_nil, or_false] at hr
    rcases hr with rfl | rfl | rfl
    · cases hx
      decide +kernel
    · cases hx
      decide +kernel
    · cases hx
  obtain ⟨hswap, hchain⟩ := order_reverses_and_chains s
  have hten : s.order ten nine = .lt := by decide +kernel
  have hnine : (s.order nine bare).isLE = true := by decide +kernel
  refine ⟨hvalues, hten, ?_, hnine, ?_⟩
  · rw [hswap ten nine, hten]
    rfl
  · refine hchain _ hvalues ten nine bare (by simp) (by simp) (by simp) ?_ hnine
    rw [hten]
    rfl

/-- Nine comes before ten as a number, ten before `1a` as a text, and `1a`
before nine as a text, so ten is shown before nine if `1a` stands between them.
And the undefined number is equal to two and to one, so two is shown before one
if it stands between them. -/
theorem order_in_a_circle :
    let run (v : String) : Run :=
      ⟨"", none, 0, none, "", "", "", .running, .active, KeyMap.empty.insert "k" (.text v),
        .empty, .empty⟩
    let s : SortSpec := ⟨.param "k", true⟩
    let state := { ViewState.initial with sort := s }
    let mixed := [run "10", run "1a", run "9"]
    let numbers := [run "2", run "nan", run "1"]
    (s.order (run "9") (run "10") = .lt ∧ s.order (run "10") (run "1a") = .lt ∧
        s.order (run "1a") (run "9") = .lt) ∧
      (s.order (run "2") (run "nan") = .eq ∧ s.order (run "nan") (run "1") = .eq ∧
        s.order (run "1") (run "2") = .lt) ∧
      (state.visibleRuns mixed = mixed ∧ state.visibleRuns numbers = numbers) ∧
      ¬∀ among : Run → Prop, ChainsOn s.order among := by
  intro run s state mixed numbers
  have hundefined : s.order (run "2") (run "nan") = .eq ∧ s.order (run "nan") (run "1") = .eq ∧
      s.order (run "1") (run "2") = .lt := by decide +kernel
  refine ⟨by decide +kernel, hundefined, by decide +kernel, fun hchain => ?_⟩
  obtain ⟨hfirst, hsecond, hthird⟩ := hundefined
  have h := hchain (fun _ => True) (run "2") (run "nan") (run "1") trivial trivial trivial
    (by rw [hfirst]; rfl) (by rw [hsecond]; rfl)
  have hswap : s.order (run "2") (run "1") = (s.order (run "1") (run "2")).swap :=
    Std.OrientedCmp.eq_swap
  rw [hswap, hthird] at h
  cases h

end SortSpec

end RunTable
