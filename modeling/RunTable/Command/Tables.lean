import RunTable.Command.Presentation
import RunTable.Command.Surroundings
import RunTable.Export.Sheet
import RunTable.View.Constant
import RunTable.View.RowOrder

/-!
The commands that show and edit tables. The runs of a sheet are read before the database is opened,
those of a view after it. A view is written back only if it differs from the one that was loaded,
so a database that cannot be written serves as long as nothing changes.
-/

namespace RunTable.Command

/-- The state stored for an experiment; the initial one if there is none. -/
def loadState (db : Database) (experiment : String) : Except CommandError ViewState :=
  match db.get experiment with
  | .error row => .error (.undecodable row)
  | .ok state => .ok (state.getD .initial)

def categoryOf (word : String) : Except CommandError Category :=
  (Category.parse word).mapError .rejected

/-- The action of a view command on a state, if it has one, and the runs that it loads. -/
def ViewCommand.action (runsAt : String → Except CommandError (List Run)) (s : ViewState) :
    ViewCommand → Except CommandError (Option ViewAction × Option (List Run))
  | .present none => .ok (none, none)
  | .present (some path) => do
    let runs ← runsAt path
    .ok (none, some runs)
  | .hide category keys => do
    let c ← categoryOf category
    .ok (some (.setHidden c ((s.columns.hidden.get c).insertAll keys)), none)
  | .unhide category keys => do
    let c ← categoryOf category
    .ok (some (.setHidden c ((s.columns.hidden.get c).diff (.ofList keys))), none)
  | .toggleDiff path => do
    let runs ← runsAt path
    let action := if s.columns.isOn then .turnDiffOff else .turnDiffOn (constantColumns runs)
    .ok (some action, some runs)
  | .search text => .ok (some (.setSearch text), none)
  | .paramFilter text => .ok (some (.setParamFilter text), none)
  | .metricFilter text => .ok (some (.setMetricFilter text), none)
  | .sort key ascending =>
    match SortKey.parse? key with
    | some key => .ok (some (.setSort ⟨key, ascending⟩), none)
    | none => .error (.rejected (.badSortKey key))
  | .lifecycle l => .ok (some (.setStage l), none)
  | .layout l => .ok (some (.setLayout l), none)
  | .reset => .ok (some .reset, none)

/-- Carries out a view command: the database after it, and the state and the runs to be shown. -/
def ViewCommand.run (c : Connection) (second : Int) (experiment : String)
    (command : ViewCommand) : Database × Except CommandError (ViewState × Option (List Run)) :=
  match loadState c.database experiment with
  | .error e => (c.database, .error e)
  | .ok before =>
    match command.action (runsAt c.look) before with
    | .error e => (c.database, .error e)
    | .ok (action, runs) =>
      let after := action.elim before before.apply
      let (db, written) := c.database.putIfChanged experiment second before after
      if written && !c.writable then (c.database, .error (.unwritable experiment))
      else (db, .ok (after, runs))

/-- The sheet of the visible runs of a table. -/
def sheetText (runs : List Run) (s : ViewState) : String :=
  let shown := s.visibleRuns runs
  Sheet.text shown (s.invisibleKeys shown)

/-- Carries out a command on tables, with the database at a path if one is named. -/
def TableCommand.run (around : Surroundings) (format : OutputFormat) (named : Option String)
    (command : TableCommand) : Report :=
  let location := named.elim around.location .named
  match command with
  | .sheet experiment path =>
    match runsAt around.look path with
    | .error e => ⟨none, .error e⟩
    | .ok runs => around.withDatabase location fun c =>
      (c.database, (loadState c.database experiment).map (sheetText runs))
  | .diff path =>
    ⟨none, (runsAt around.look path).map fun runs => constantText format (constantColumns runs)⟩
  | .view experiment command => around.withDatabase location fun c =>
    let (db, result) := command.run c around.second experiment
    (db, result.map fun (s, runs) => stateText format experiment s runs)

end RunTable.Command
