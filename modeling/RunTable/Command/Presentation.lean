import RunTable.Command.Invocation
import RunTable.Text.Quoted
import RunTable.View.Codec
import RunTable.View.Visible

/-!
How view states and constant columns are shown: as lines for a reader, or as JSON over several
lines.
-/

namespace RunTable.Command

open Json

/-- Texts with a comma and a blank between neighbours. -/
def listed (texts : List String) : String := ", ".intercalate texts

/-- Lines as text, each ended by a line break. -/
def lines (ls : List String) : String := String.join (ls.map (· ++ "\n"))

/-- A column to sort by, for a reader. -/
def sortKeyText : SortKey → String
  | .attribute a => "Attribute(" ++ a.identifier ++ ")"
  | .param key => "Param(" ++ Text.quoted key ++ ")"
  | .metric key => "Metric(" ++ Text.quoted key ++ ")"
  | .tag key => "Tag(" ++ Text.quoted key ++ ")"

/-- The name of a stage, for a reader. -/
def stageText : LifecycleStage → String
  | .active => "Active"
  | .deleted => "Deleted"

/-- The name of a layout, for a reader. -/
def layoutText : ColumnLayout → String
  | .compact => "Compact"
  | .grid => "Grid"

def stateLines (experiment : String) (s : ViewState) : List String :=
  ["experiment: " ++ experiment,
    "diff view: " ++ if s.columns.isOn then "on" else "off"] ++
  (Category.all.map fun c =>
    let keys := (s.columns.hidden.get c).toList
    "hidden " ++ c.name ++ ": " ++ if keys.isEmpty then "(none)" else listed keys) ++
  ["search: " ++ s.search,
    "param filter: " ++ s.paramFilter.raw,
    "metric filter: " ++ s.metricFilter.raw,
    "lifecycle: " ++ stageText s.stage ++ " • layout: " ++ layoutText s.layout,
    "sort: " ++ sortKeyText s.sort.key ++ if s.sort.ascending then " asc" else " desc"]

def columnLines (s : ViewState) (runs : List Run) : List String :=
  Category.all.map fun c => "visible " ++ c.name ++ ": " ++ listed (s.visibleKeys runs c)

def columnsDocument (s : ViewState) (runs : List Run) : Document :=
  .record (Category.all.map fun c => (c.name, .texts (s.visibleKeys runs c)))

/-- Puts a member before the first one whose name is not smaller. -/
def insertMember (m : Option String × Document) :
    List (Option String × Document) → List (Option String × Document)
  | [] => [m]
  | n :: rest => if n.1.getD "" < m.1.getD "" then n :: insertMember m rest else m :: n :: rest

mutual

/-- A document with the members of its objects in ascending order of names. -/
def ascending : Document → Document
  | .array items => .array (ascendingItems items)
  | .object members => .object ((ascendingMembers members).foldr insertMember [])
  | d => d

def ascendingItems : List Document → List Document
  | [] => []
  | d :: rest => ascending d :: ascendingItems rest

def ascendingMembers : List (Option String × Document) → List (Option String × Document)
  | [] => []
  | (name, d) :: rest => (name, ascending d) :: ascendingMembers rest

end

/-- The document of a view state, and of the visible columns if there is a table. -/
def stateDocument (s : ViewState) (runs : Option (List Run)) : Document :=
  let columns := runs.toList.map fun runs => (some "visible_columns", columnsDocument s runs)
  match s.toDocument with
  | .object members => .object (members ++ columns)
  | d => d

/-- A view state as it is shown, with the visible columns if there is a table. -/
def stateText (format : OutputFormat) (experiment : String) (s : ViewState)
    (runs : Option (List Run)) : String :=
  match format with
  | .human => lines (stateLines experiment s ++ runs.elim [] (columnLines s))
  | .json => lines [(ascending (stateDocument s runs)).pretty]

def constantText (format : OutputFormat) (constant : HiddenKeys) : String :=
  match format with
  | .human => lines (Category.all.map fun c => c.name ++ ": " ++ listed (constant.get c).toList)
  | .json => lines [constant.toDocument.pretty]

end RunTable.Command
