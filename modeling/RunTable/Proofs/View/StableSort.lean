import RunTable.View.RowOrder

/-! # Stable sorting

Sorting by insertion changes nothing but the order of the items, however they
compare. Where the comparison chains on the items, each item goes before all
that come after it, and items that compare equal stay as they stood
(`pairwise_sortStably`). Items that are in order already stay where they are. -/

namespace RunTable

variable {α β : Type} {order : α → α → Ordering}

/-- Among some items, one that is not after a second, which is not after a
third, is not after the third either. -/
def ChainsOn (order : α → α → Ordering) (among : α → Prop) : Prop :=
  ∀ a b c, among a → among b → among c →
    (order a b).isLE = true → (order b c).isLE = true → (order a c).isLE = true

/-- One item comes first by the order, or compares equal and stood first. -/
def GoesBefore (order : α → α → Ordering) (stood : α → α → Prop) (a b : α) : Prop :=
  order a b = .lt ∨ order a b = .eq ∧ stood a b

theorem ChainsOn.mono {among fewer : α → Prop} (h : ChainsOn order among)
    (hfewer : ∀ a, fewer a → among a) : ChainsOn order fewer :=
  fun a b c ha hb hc => h a b c (hfewer a ha) (hfewer b hb) (hfewer c hc)

theorem GoesBefore.isLE {stood : α → α → Prop} {a b : α} (h : GoesBefore order stood a b) :
    (order a b).isLE = true := by
  rcases h with h | ⟨h, _⟩ <;> rw [h] <;> rfl

theorem goesBefore_of_isLE {stood : α → α → Prop} {a b : α} (h : (order a b).isLE = true)
    (hstood : stood a b) : GoesBefore order stood a b := by
  cases hab : order a b with
  | lt => exact Or.inl hab
  | eq => exact Or.inr ⟨hab, hstood⟩
  | gt => rw [hab] at h; cases h

theorem sortStably_cons (order : α → α → Ordering) (a : α) (rest : List α) :
    sortStably order (a :: rest) = insertOrdered order a (sortStably order rest) := rfl

/-! ## The same items -/

theorem perm_insertOrdered (order : α → α → Ordering) (a : α) (items : List α) :
    (insertOrdered order a items).Perm (a :: items) := by
  induction items with
  | nil => exact List.Perm.refl [a]
  | cons b rest ih =>
    simp only [insertOrdered]
    split
    · exact (ih.cons b).trans (List.Perm.swap a b rest)
    · exact List.Perm.refl _

theorem perm_sortStably (order : α → α → Ordering) (items : List α) :
    (sortStably order items).Perm items := by
  induction items with
  | nil => exact List.Perm.nil
  | cons a rest ih =>
    rw [sortStably_cons]
    exact (perm_insertOrdered order a _).trans (ih.cons a)

theorem map_insertOrdered (f : α → β) (order : β → β → Ordering) (a : α) (items : List α) :
    (insertOrdered (fun a b => order (f a) (f b)) a items).map f =
      insertOrdered order (f a) (items.map f) := by
  induction items with
  | nil => rfl
  | cons b rest ih =>
    simp only [insertOrdered, List.map_cons]
    split
    · simp [ih]
    · rfl

/-- Items that are sorted by what they show can be sorted after showing it. -/
theorem map_sortStably (f : α → β) (order : β → β → Ordering) (items : List α) :
    (sortStably (fun a b => order (f a) (f b)) items).map f = sortStably order (items.map f) := by
  induction items with
  | nil => rfl
  | cons a rest ih =>
    rw [sortStably_cons, map_insertOrdered, ih, List.map_cons, sortStably_cons]

/-! ## Their order -/

section

variable [Std.OrientedCmp order] {stood : α → α → Prop}

theorem pairwise_insertOrdered {a : α} {items : List α} (hchain : ChainsOn order (· ∈ a :: items))
    (h : items.Pairwise (GoesBefore order stood)) (ha : ∀ b ∈ items, stood a b) :
    (insertOrdered order a items).Pairwise (GoesBefore order stood) := by
  induction items with
  | nil => exact List.pairwise_singleton _ a
  | cons b rest ih =>
    obtain ⟨hb, hrest⟩ := List.pairwise_cons.mp h
    obtain ⟨hab, harest⟩ := List.forall_mem_cons.mp ha
    simp only [insertOrdered]
    split
    · next hgt =>
      -- The new item comes after this one, and so it has its place among the rest.
      have hfewer : ChainsOn order (· ∈ a :: rest) :=
        hchain.mono fun c hc => List.cons_subset_cons a (List.subset_cons_self b rest) hc
      refine List.pairwise_cons.mpr ⟨fun c hc => ?_, ih hfewer hrest harest⟩
      rcases List.mem_cons.mp ((perm_insertOrdered order a rest).mem_iff.mp hc) with rfl | hc
      · have hswap : order b c = (order c b).swap := Std.OrientedCmp.eq_swap
        rw [hgt] at hswap
        exact Or.inl hswap
      · exact hb c hc
    · next hle =>
      have hle : (order a b).isLE = true := Ordering.isLE_iff_ne_gt.mpr hle
      refine List.pairwise_cons.mpr ⟨fun c hc => ?_, h⟩
      refine goesBefore_of_isLE ?_ (ha c hc)
      rcases List.mem_cons.mp hc with rfl | hc
      · exact hle
      · exact hchain a b c (by simp) (by simp) (by simp [hc]) hle (hb c hc).isLE

theorem pairwise_sortStably {items : List α} (hchain : ChainsOn order (· ∈ items))
    (h : items.Pairwise stood) :
    (sortStably order items).Pairwise (GoesBefore order stood) := by
  induction items with
  | nil => exact List.Pairwise.nil
  | cons a rest ih =>
    obtain ⟨ha, hrest⟩ := List.pairwise_cons.mp h
    have hsorted := ih (hchain.mono fun b hb => List.mem_cons_of_mem a hb) hrest
    have hperm := perm_sortStably order rest
    rw [sortStably_cons]
    refine pairwise_insertOrdered ?_ hsorted fun b hb => ha b (hperm.mem_iff.mp hb)
    exact hchain.mono fun b hb => (hperm.cons a).mem_iff.mp hb

end

theorem sortStably_eq_self {items : List α}
    (h : items.Pairwise fun a b => (order a b).isLE = true) : sortStably order items = items := by
  induction items with
  | nil => rfl
  | cons a rest ih =>
    obtain ⟨ha, hrest⟩ := List.pairwise_cons.mp h
    rw [sortStably_cons, ih hrest]
    cases rest with
    | nil => rfl
    | cons b rest =>
      have hab : order a b ≠ .gt := Ordering.isLE_iff_ne_gt.mp (ha b List.mem_cons_self)
      rw [insertOrdered, if_neg hab]

end RunTable
