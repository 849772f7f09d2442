/-!
Finite sets of keys, kept as strictly ascending lists in code-point order. Because a set has one
list only, two sets with the same members are equal (`KeySet.ext`), and each operation is known by
its members (`mem_insert`, `mem_union`, `mem_diff`, `mem_ofList`).
-/

namespace RunTable

/-- The list with a key put at its place, unless it is there. -/
def insertKey (k : String) : List String → List String
  | [] => [k]
  | x :: xs =>
    if k < x then k :: x :: xs
    else if k = x then x :: xs
    else x :: insertKey k xs

theorem mem_insertKey {k x : String} {xs : List String} :
    x ∈ insertKey k xs ↔ x = k ∨ x ∈ xs := by
  induction xs with
  | nil => simp [insertKey]
  | cons y ys ih =>
    simp only [insertKey]
    split
    · simp
    · split
      · next h => simp [h]
      · simp only [List.mem_cons, ih]
        constructor
        · rintro (h | h | h) <;> simp [h]
        · rintro (h | h | h) <;> simp [h]

theorem ascending_insertKey {k : String} {xs : List String} (h : xs.Pairwise (· < ·)) :
    (insertKey k xs).Pairwise (· < ·) := by
  induction xs with
  | nil => simp [insertKey]
  | cons y ys ih =>
    obtain ⟨hy, hys⟩ := List.pairwise_cons.1 h
    simp only [insertKey]
    split
    · next hk =>
      refine List.pairwise_cons.2 ⟨fun z hz => ?_, h⟩
      rcases List.mem_cons.1 hz with rfl | hz
      · exact hk
      · exact String.lt_trans hk (hy z hz)
    · next hk =>
      split
      · exact h
      · next hne =>
        refine List.pairwise_cons.2 ⟨fun z hz => ?_, ih hys⟩
        rcases mem_insertKey.1 hz with rfl | hz
        · exact Decidable.byContradiction fun hlt =>
            hne (String.le_antisymm (String.not_lt.1 hlt) (String.not_lt.1 hk))
        · exact hy z hz

/-- Strictly ascending lists with the same members are the same list. -/
theorem eq_of_ascending_of_mem_iff {xs ys : List String} (hx : xs.Pairwise (· < ·))
    (hy : ys.Pairwise (· < ·)) (h : ∀ k, k ∈ xs ↔ k ∈ ys) : xs = ys := by
  induction xs generalizing ys with
  | nil =>
    cases ys with
    | nil => rfl
    | cons y ys => exact absurd ((h y).2 List.mem_cons_self) (by simp)
  | cons x xs ih =>
    cases ys with
    | nil => exact absurd ((h x).1 List.mem_cons_self) (by simp)
    | cons y ys =>
      obtain ⟨hxl, hxs⟩ := List.pairwise_cons.1 hx
      obtain ⟨hyl, hys⟩ := List.pairwise_cons.1 hy
      have hxy : x = y := by
        rcases List.mem_cons.1 ((h x).1 List.mem_cons_self) with he | hm
        · exact he
        · rcases List.mem_cons.1 ((h y).2 List.mem_cons_self) with he | hm'
          · exact he.symm
          · exact absurd (String.lt_trans (hyl x hm) (hxl y hm')) (String.lt_irrefl y)
      subst hxy
      congr 1
      refine ih hxs hys fun k => ⟨fun hk => ?_, fun hk => ?_⟩
      · rcases List.mem_cons.1 ((h k).1 (List.mem_cons_of_mem _ hk)) with rfl | hm
        · exact absurd (hxl k hk) (String.lt_irrefl k)
        · exact hm
      · rcases List.mem_cons.1 ((h k).2 (List.mem_cons_of_mem _ hk)) with rfl | hm
        · exact absurd (hyl k hk) (String.lt_irrefl k)
        · exact hm

/-- A finite set of keys. -/
structure KeySet where
  /-- The members in strictly ascending order. -/
  toList : List String
  ascending : toList.Pairwise (· < ·)
  deriving DecidableEq

namespace KeySet

instance : Membership String KeySet := ⟨fun s k => k ∈ s.toList⟩

theorem mem_def {k : String} {s : KeySet} : k ∈ s ↔ k ∈ s.toList := Iff.rfl

instance (k : String) (s : KeySet) : Decidable (k ∈ s) := inferInstanceAs (Decidable (k ∈ s.toList))

/-- Sets with the same members are equal. -/
theorem ext {a b : KeySet} (h : ∀ k, k ∈ a ↔ k ∈ b) : a = b := by
  obtain ⟨xs, hx⟩ := a
  obtain ⟨ys, hy⟩ := b
  congr 1
  exact eq_of_ascending_of_mem_iff hx hy h

def empty : KeySet := ⟨[], List.Pairwise.nil⟩

instance : Inhabited KeySet := ⟨empty⟩

def contains (s : KeySet) (k : String) : Bool := decide (k ∈ s)

def size (s : KeySet) : Nat := s.toList.length

def isEmpty (s : KeySet) : Bool := s.toList.isEmpty

def insert (s : KeySet) (k : String) : KeySet :=
  ⟨insertKey k s.toList, ascending_insertKey s.ascending⟩

def insertAll (s : KeySet) (ks : List String) : KeySet := ks.foldl insert s

def ofList (ks : List String) : KeySet := empty.insertAll ks

def union (a b : KeySet) : KeySet := a.insertAll b.toList

def filter (p : String → Bool) (s : KeySet) : KeySet :=
  ⟨s.toList.filter p, s.ascending.sublist List.filter_sublist⟩

def diff (a b : KeySet) : KeySet := a.filter fun k => !b.contains k

@[simp] theorem contains_iff {s : KeySet} {k : String} : s.contains k = true ↔ k ∈ s := by
  simp [contains]

@[simp] theorem not_mem_empty {k : String} : k ∉ empty := List.not_mem_nil

@[simp] theorem mem_insert {s : KeySet} {k x : String} : x ∈ s.insert k ↔ x = k ∨ x ∈ s :=
  mem_insertKey

@[simp] theorem mem_insertAll {s : KeySet} {ks : List String} {x : String} :
    x ∈ s.insertAll ks ↔ x ∈ s ∨ x ∈ ks := by
  induction ks generalizing s with
  | nil => simp [insertAll]
  | cons k ks ih =>
    have step : s.insertAll (k :: ks) = (s.insert k).insertAll ks := rfl
    simp only [step, ih, mem_insert, List.mem_cons, or_assoc]
    exact or_left_comm

@[simp] theorem mem_ofList {ks : List String} {x : String} : x ∈ ofList ks ↔ x ∈ ks := by
  simp [ofList]

@[simp] theorem mem_union {a b : KeySet} {x : String} : x ∈ a.union b ↔ x ∈ a ∨ x ∈ b :=
  mem_insertAll

@[simp] theorem mem_filter {p : String → Bool} {s : KeySet} {x : String} :
    x ∈ s.filter p ↔ x ∈ s ∧ p x = true :=
  List.mem_filter

@[simp] theorem mem_diff {a b : KeySet} {x : String} : x ∈ a.diff b ↔ x ∈ a ∧ x ∉ b := by
  simp [diff, ← Bool.not_eq_true]

theorem ofList_toList (s : KeySet) : ofList s.toList = s :=
  ext fun _ => mem_ofList

end KeySet

end RunTable
