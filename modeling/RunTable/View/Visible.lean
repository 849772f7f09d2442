import RunTable.Run.Columns
import RunTable.View.State

/-!
Which columns of a table are visible: those that pass the filter of their category and are not
hidden. All others count as hidden when the table is exported.
-/

namespace RunTable

namespace ViewState

/-- Whether a column name passes the filter of its category. -/
def passes (s : ViewState) (c : Category) (key : String) : Bool :=
  match c with
  | .params => s.paramFilter.passes key
  | .metrics => s.metricFilter.passes key
  | .attributes | .tags => true

/-- The visible column names of a category, in table order. -/
def visibleKeys (s : ViewState) (runs : List Run) (c : Category) : List String :=
  (columnKeys runs c).filter fun k => s.passes c k && !s.columns.hidden.contains c k

/-- The hidden keys, and every column that is not visible. -/
def invisibleKeys (s : ViewState) (runs : List Run) : HiddenKeys :=
  .ofCategories fun c =>
    (s.columns.hidden.get c).insertAll
      ((columnKeys runs c).filter fun k => !(s.visibleKeys runs c).contains k)

end ViewState

end RunTable
