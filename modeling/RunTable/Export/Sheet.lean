import RunTable.Export.Csv
import RunTable.Export.Duration
import RunTable.HiddenKeys
import RunTable.Run.Columns

/-!
The sheet that a table is exported as: a record of column names, then one for each run. Attributes
come first, then the keys of the other categories; hidden columns are left out.
-/

namespace RunTable

def Attribute.cellText (a : Attribute) (r : Run) : String :=
  match a with
  | .startTime => timestampText r.startTime
  | .duration =>
    match r.endTime with
    | some stop =>
      if 0 < r.startTime ∧ r.startTime ≤ stop then durationText (stop - r.startTime) else ""
    | none => ""
  | a => (a.value r).render

/-- What the cell of a run under a key shows; nothing if the run lacks the key. -/
def Run.cellText (r : Run) (c : Category) (key : String) : String :=
  ((r.cells c).get? key).elim "" Json.Cell.render

namespace Sheet

def attributes (hidden : HiddenKeys) : List Attribute :=
  Attribute.all.filter fun a => !hidden.contains .attributes a.label

def keys (runs : List Run) (hidden : HiddenKeys) (c : Category) : List String :=
  (columnKeys runs c).filter fun k => !hidden.contains c k

def header (runs : List Run) (hidden : HiddenKeys) : List String :=
  (attributes hidden).map Attribute.label ++ Category.keyed.flatMap (keys runs hidden)

/-- The cells of a run in a table. -/
def row (runs : List Run) (hidden : HiddenKeys) (r : Run) : List String :=
  (attributes hidden).map (·.cellText r) ++
    Category.keyed.flatMap fun c => (keys runs hidden c).map (r.cellText c)

/-- The records of a table: the column names, then the cells of each run. -/
def records (runs : List Run) (hidden : HiddenKeys) : List (List String) :=
  header runs hidden :: runs.map (row runs hidden)

def text (runs : List Run) (hidden : HiddenKeys) : String := Csv.text (records runs hidden)

end Sheet

end RunTable
