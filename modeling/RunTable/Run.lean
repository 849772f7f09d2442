import RunTable.Category
import RunTable.KeyMap
import RunTable.Json.Cell

/-!
Runs: one row of an experiment's table each.
-/

namespace RunTable

/-- How far a run has come. -/
inductive RunStatus where
  | running
  | scheduled
  | finished
  | failed
  | killed
  deriving DecidableEq

def RunStatus.name : RunStatus → String
  | .running => "RUNNING"
  | .scheduled => "SCHEDULED"
  | .finished => "FINISHED"
  | .failed => "FAILED"
  | .killed => "KILLED"

def RunStatus.byName : List (String × RunStatus) :=
  [RunStatus.running, .scheduled, .finished, .failed, .killed].map fun s => (s.name, s)

/-- Whether a run is in use or has been put away. -/
inductive LifecycleStage where
  | active
  | deleted
  deriving DecidableEq

def LifecycleStage.name : LifecycleStage → String
  | .active => "active"
  | .deleted => "deleted"

def LifecycleStage.byName : List (String × LifecycleStage) :=
  [LifecycleStage.active, .deleted].map fun s => (s.name, s)

/-- One run. Times are milliseconds since the beginning of 1970. -/
structure Run where
  id : String
  name : Option String
  startTime : Int64
  endTime : Option Int64
  sourceType : String
  sourceName : String
  user : String
  status : RunStatus
  stage : LifecycleStage
  params : KeyMap Json.Cell
  metrics : KeyMap Json.Cell
  tags : KeyMap Json.Cell
  deriving DecidableEq

/-- The cells of a category by name. The attributes are no such cells. -/
def Run.cells (r : Run) : Category → KeyMap Json.Cell
  | .attributes => .empty
  | .params => r.params
  | .metrics => r.metrics
  | .tags => r.tags

namespace KeyMap

/-- Whether two maps have the same names with the same JSON values. -/
def same (a b : KeyMap Json.Cell) : Bool :=
  decide ((a.map fun c => c.value.unsigned) = (b.map fun c => c.value.unsigned))

end KeyMap

/-- Whether two runs agree in everything, the sign of a zero overlooked. -/
def Run.same (a b : Run) : Bool :=
  decide ({ a with params := .empty, metrics := .empty, tags := .empty } =
      ({ b with params := .empty, metrics := .empty, tags := .empty } : Run)) &&
    a.params.same b.params && a.metrics.same b.metrics && a.tags.same b.tags

end RunTable
