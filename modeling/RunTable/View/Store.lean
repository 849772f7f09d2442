import RunTable.KeyMap
import RunTable.Number.Width
import RunTable.View.State

/-!
The store: the view states of all experiments, changed by calls that each concern one of them.
After every change the store publishes a snapshot under the next number, which readers look at
instead of the store, and announces that number.
-/

namespace RunTable

/-- What readers see: all states, and how many changes led to them. -/
structure Snapshot where
  epoch : Nat
  states : KeyMap ViewState

/-- The last number of a snapshot; the count of changes stays there. -/
def lastEpoch : Nat := wordLimit - 1

/-- The view states of all experiments. -/
structure Store where
  /-- Which columns diff view hides. -/
  constant : List Run → HiddenKeys
  states : KeyMap ViewState
  epoch : Nat
  published : Snapshot
  announced : Nat

/-- A call that concerns one experiment. -/
inductive StoreCall where
  | dispatch (action : ViewAction)
  | setHidden (c : Category) (keys : KeySet)
  | toggleDiff (runs : List Run)
  | restore (state : ViewState)

/-- The state that a snapshot holds for an experiment; an untouched one has the initial state. -/
def Snapshot.state (s : Snapshot) (experiment : String) : ViewState :=
  (s.states.get? experiment).getD .initial

namespace Store

def empty (constant : List Run → HiddenKeys) : Store := ⟨constant, .empty, 0, ⟨0, .empty⟩, 0⟩

/-- The state of an experiment; untouched experiments have the initial one. -/
def state (s : Store) (experiment : String) : ViewState :=
  (s.states.get? experiment).getD .initial

def experiments (s : Store) : KeySet := s.states.keys

/-- Publishes and announces the states under the next number. -/
def publish (s : Store) : Store :=
  let epoch := min (s.epoch + 1) lastEpoch
  { s with epoch := epoch, published := ⟨epoch, s.states⟩, announced := epoch }

def restore (s : Store) (experiment : String) (state : ViewState) : Store :=
  { s with states := s.states.insert experiment state }.publish

/-- Applies an action to the state of an experiment. -/
def dispatch (s : Store) (experiment : String) (action : ViewAction) : Store :=
  let next := (s.state experiment).apply action
  { s with states := (s.states.erase experiment).insert experiment next }.publish

/-- Hides just the given names of a category. -/
def setHidden (s : Store) (experiment : String) (c : Category) (keys : KeySet) : Store :=
  s.dispatch experiment (.setHidden c keys)

/-- Turns the diff switch over. Only turning it on looks at the runs. -/
def toggleDiff (s : Store) (experiment : String) (runs : List Run) : Store :=
  s.dispatch experiment
    (if (s.state experiment).columns.isOn then .turnDiffOff else .turnDiffOn (s.constant runs))

def call (s : Store) (experiment : String) : StoreCall → Store
  | .dispatch action => s.dispatch experiment action
  | .setHidden c keys => s.setHidden experiment c keys
  | .toggleDiff runs => s.toggleDiff experiment runs
  | .restore state => s.restore experiment state

end Store

end RunTable
