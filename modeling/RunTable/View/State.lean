import RunTable.Run
import RunTable.View.DiffSwitch
import RunTable.View.KeyFilter
import RunTable.View.SortKey

/-!
View states: all that the table of one experiment remembers, and the actions that change it.
-/

namespace RunTable

/-- How the columns are laid out. -/
inductive ColumnLayout where
  | compact
  | grid
  deriving DecidableEq

def ColumnLayout.name : ColumnLayout → String
  | .compact => "compact"
  | .grid => "grid"

def ColumnLayout.byName : List (String × ColumnLayout) :=
  [ColumnLayout.compact, .grid].map fun l => (l.name, l)

/-- What the table of one experiment remembers. -/
structure ViewState where
  columns : DiffSwitch
  search : String
  paramFilter : KeyFilter
  metricFilter : KeyFilter
  /-- The stage of the runs that are shown. -/
  stage : LifecycleStage
  sort : SortSpec
  layout : ColumnLayout
  deriving DecidableEq

/-- The state of a table that was never touched. -/
def ViewState.initial : ViewState := ⟨.initial, "", .all, .all, .active, .initial, .compact⟩

instance : Inhabited ViewState := ⟨.initial⟩

/-- A change of a view state. -/
inductive ViewAction where
  | setHidden (c : Category) (keys : KeySet)
  | turnDiffOn (constant : HiddenKeys)
  | turnDiffOff
  | setSearch (text : String)
  | setParamFilter (text : String)
  | setMetricFilter (text : String)
  | setStage (stage : LifecycleStage)
  | setSort (sort : SortSpec)
  | setLayout (layout : ColumnLayout)
  | reset

def ViewState.apply (s : ViewState) : ViewAction → ViewState
  | .setHidden c keys => { s with columns := s.columns.setHidden c keys }
  | .turnDiffOn constant => { s with columns := s.columns.turnOn constant }
  | .turnDiffOff => { s with columns := s.columns.turnOff }
  | .setSearch text => { s with search := text }
  | .setParamFilter text => { s with paramFilter := ⟨text⟩ }
  | .setMetricFilter text => { s with metricFilter := ⟨text⟩ }
  | .setStage stage => { s with stage := stage }
  | .setSort sort => { s with sort := sort }
  | .setLayout layout => { s with layout := layout }
  | .reset => .initial

end RunTable
