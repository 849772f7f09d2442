import RunTable.Run.Attribute

/-!
The columns of a table: the attributes by their labels, and every key that some run has.
-/

namespace RunTable

/-- The column names of a category, in table order: for attributes all labels, for any other
category the keys that some run has, in ascending order. -/
def columnKeys (runs : List Run) : Category → List String
  | .attributes => Attribute.all.map Attribute.label
  | c => (runs.foldl (fun keys r => keys.union (r.cells c).keys) KeySet.empty).toList

theorem mem_foldl_keys {runs : List Run} {c : Category} {keys : KeySet} {k : String} :
    k ∈ runs.foldl (fun keys r => keys.union (r.cells c).keys) keys ↔
      k ∈ keys ∨ ∃ r ∈ runs, k ∈ (r.cells c).keys := by
  induction runs generalizing keys with
  | nil => simp
  | cons r runs ih => simp [ih, or_assoc]

/-- A keyed category has the keys of the runs as its columns. -/
theorem mem_columnKeys {runs : List Run} {c : Category} (hc : c ≠ .attributes) {k : String} :
    k ∈ columnKeys runs c ↔ ∃ r ∈ runs, k ∈ (r.cells c).keys := by
  cases c with
  | attributes => exact absurd rfl hc
  | params | metrics | tags =>
    exact mem_foldl_keys.trans (by simp)

end RunTable
