import RunTable.Command.Arguments
import RunTable.Poll.Settings
import RunTable.View.State

/-!
Invocations: what a command line asks the program to do.
-/

namespace RunTable.Command

/-- What is done with the view state of an experiment. -/
inductive ViewCommand where
  | present (runs : Option String)
  | hide (category : String) (keys : List String)
  | unhide (category : String) (keys : List String)
  | toggleDiff (runs : String)
  | search (text : String)
  | paramFilter (text : String)
  | metricFilter (text : String)
  | sort (key : String) (ascending : Bool)
  | lifecycle (stage : LifecycleStage)
  | layout (layout : ColumnLayout)
  | reset

/-- What is done with tables. Runs are given by the path of their file. -/
inductive TableCommand where
  | sheet (experiment runs : String)
  | diff (runs : String)
  | view (experiment : String) (command : ViewCommand)

/-- The path of the file that a view command reads, if it reads one. -/
def ViewCommand.path? : ViewCommand → Option String
  | .present runs => runs
  | .toggleDiff runs => some runs
  | _ => none

def TableCommand.paths : TableCommand → List String
  | .sheet _ runs => [runs]
  | .diff runs => [runs]
  | .view _ command => command.path?.toList

/-- The resources that are polled, each a file in a directory, and the interval asked for. -/
structure WatchCommand where
  directory : String
  resources : List String
  interval : Option Nat

/-- What the program does. -/
inductive Task where
  | table (command : TableCommand)
  | watch (command : WatchCommand)

/-- How results are shown. -/
inductive OutputFormat where
  | human
  | json
  deriving DecidableEq

/-- A task, how its results are shown, and which database it uses, if that is said. -/
structure Invocation where
  format : OutputFormat
  database : Option String
  task : Task

/-- The program and its subcommands. -/
inductive Subcommand where
  | program
  | sheet
  | diff
  | view
  | poll
  | present
  | hide
  | unhide
  | toggleDiff
  | search
  | paramFilter
  | metricFilter
  | sort
  | lifecycle
  | layout
  | reset
  deriving DecidableEq

namespace Subcommand

def formats : List (String × OutputFormat) := [("human", .human), ("json", .json)]

/-- Whether a word is one of the names of a list. -/
def named {α : Type} (names : List (String × α)) (word : String) : Bool :=
  (valueAt word names).isSome

/-- An option with one value of any form. -/
def valueOption (long : String) (required : Bool) : OptionSpec :=
  ⟨long, none, true, fun _ => true, false, required⟩

def commonOptions : List OptionSpec :=
  [⟨"output", some 'o', true, named formats, false, false⟩, valueOption "db" false]

def options : Subcommand → List OptionSpec
  | .sheet | .diff | .toggleDiff => valueOption "runs" true :: commonOptions
  | .present => valueOption "runs" false :: commonOptions
  | .sort => ⟨"asc", none, false, fun _ => true, false, false⟩ :: commonOptions
  | .poll =>
    valueOption "dir" true ::
    ⟨"resource", none, true, fun _ => true, true, true⟩ ::
    ⟨"interval-ms", none, true, fun s => (Poll.Settings.natural64? s).isSome, false, false⟩ ::
    commonOptions
  | _ => commonOptions

def plainOperand : OperandSpec := ⟨fun _ => true, false⟩

def operands : Subcommand → List OperandSpec
  | .sheet | .view | .search | .paramFilter | .metricFilter | .sort => [plainOperand]
  | .hide | .unhide => [plainOperand, ⟨fun _ => true, true⟩]
  | .lifecycle => [⟨named LifecycleStage.byName, false⟩]
  | .layout => [⟨named ColumnLayout.byName, false⟩]
  | .program | .diff | .poll | .present | .toggleDiff | .reset => []

def subcommands : Subcommand → List (String × Subcommand)
  | .program => [("export", .sheet), ("diff", .diff), ("view", .view), ("poll", .poll)]
  | .view => [
      ("show", .present), ("hide", .hide), ("unhide", .unhide), ("toggle-diff", .toggleDiff),
      ("search", .search), ("param-filter", .paramFilter), ("metric-filter", .metricFilter),
      ("sort", .sort), ("lifecycle", .lifecycle), ("layout", .layout), ("reset", .reset)]
  | _ => []

def grammar : Grammar Subcommand := ⟨options, operands, subcommands, (decide <| · = .program)⟩

def viewCommand? (sub : Subcommand) (given : Given) : Option ViewCommand :=
  match sub, given.operands with
  | .present, [] => some (.present (given.value? "runs"))
  | .hide, category :: keys => some (.hide category keys)
  | .unhide, category :: keys => some (.unhide category keys)
  | .toggleDiff, [] => (given.value? "runs").map .toggleDiff
  | .search, [text] => some (.search text)
  | .paramFilter, [text] => some (.paramFilter text)
  | .metricFilter, [text] => some (.metricFilter text)
  | .sort, [key] => some (.sort key (given.value? "asc").isSome)
  | .lifecycle, [word] => (valueAt word LifecycleStage.byName).map .lifecycle
  | .layout, [word] => (valueAt word ColumnLayout.byName).map .layout
  | .reset, [] => some .reset
  | _, _ => none

/-- The task of the subcommands that were entered. -/
def task? : List (Subcommand × Given) → Option Task
  | [_, (.sheet, given)] => do
    let [experiment] := given.operands | none
    let runs ← given.value? "runs"
    some (.table (.sheet experiment runs))
  | [_, (.diff, given)] => (given.value? "runs").map fun runs => .table (.diff runs)
  | [_, (.view, given), (sub, rest)] => do
    let [experiment] := given.operands | none
    let command ← viewCommand? sub rest
    some (.table (.view experiment command))
  | [_, (.poll, given)] => do
    let directory ← given.value? "dir"
    let interval := (given.value? "interval-ms").bind Poll.Settings.natural64?
    some (.watch ⟨directory, given.valuesOf "resource", interval⟩)
  | _ => none

/-- The value of an option that may stand anywhere: the one given last along the subcommands. -/
def commonValue? (path : List (Subcommand × Given)) (long : String) : Option String :=
  path.reverse.findSome? fun (_, given) => given.value? long

end Subcommand

/-- The invocation that a command line spells, given the database of the environment. -/
def Invocation.read (environmentDatabase : Option String) (words : List String) :
    Except Refusal Invocation := do
  let path ← Subcommand.grammar.read .program words
  let format := ((Subcommand.commonValue? path "output").bind
    (valueAt · Subcommand.formats)).getD .human
  match Subcommand.task? path with
  | some task =>
    .ok ⟨format, (Subcommand.commonValue? path "db").orElse fun _ => environmentDatabase, task⟩
  | none => .error .usage

end RunTable.Command
