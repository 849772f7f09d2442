import RunTable.Run.Attribute

/-!
What a table is sorted by: a column, named by its category and a point before its own name, and a
direction.
-/

namespace RunTable

/-- A column to sort by. -/
inductive SortKey where
  | attribute (a : Attribute)
  | param (key : String)
  | metric (key : String)
  | tag (key : String)
  deriving DecidableEq

/-- The column that a text names: a category, a point, and a label or a key, which may stand
between backticks. -/
def SortKey.parse? (s : String) : Option SortKey := do
  let (category, key) ← Text.splitFirst '.' s.toList
  let key := String.ofList (Text.trimBoth (· == '\x60') key)
  match Category.parse (String.ofList category) with
  | .ok .attributes => (Attribute.ofLabel? key).map .attribute
  | .ok .params => some (.param key)
  | .ok .metrics => some (.metric key)
  | .ok .tags => some (.tag key)
  | .error _ => none

/-- A column and a direction to sort by. -/
structure SortSpec where
  key : SortKey
  ascending : Bool
  deriving DecidableEq

/-- The latest start first. -/
def SortSpec.initial : SortSpec := ⟨.attribute .startTime, false⟩

instance : Inhabited SortSpec := ⟨.initial⟩

end RunTable
