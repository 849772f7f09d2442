import RunTable.Number.Text
import RunTable.View.State

/-!
Which runs of a table are shown, and in which order. Cells that are numbers, or spell one, compare
as numbers with each other; any other two cells compare by what they show. Runs without a value go
last in either direction, and runs that compare equal stay in their order.
-/

namespace RunTable

open Json

/-- The number that a cell is or spells. -/
def Json.Cell.number? (c : Cell) : Option Extended :=
  match c.value with
  | .integer n => some (.ofInt n.val)
  | .double d => some (.finite d)
  | .string s => Extended.ofText? (Text.trim s.toList)
  | _ => none

/-- The order of two texts by code points. -/
def textOrder (a b : String) : Ordering := if a < b then .lt else if a = b then .eq else .gt

def Json.Cell.order (a b : Cell) : Ordering :=
  match a.number?, b.number? with
  | some x, some y => x.order y
  | _, _ => textOrder a.render b.render

/-- What a run is sorted by, if it has a value there. -/
def SortKey.value? (k : SortKey) (r : Run) : Option Cell :=
  let cell := match k with
    | .attribute a => some (a.value r)
    | .param key => r.params.get? key
    | .metric key => r.metrics.get? key
    | .tag key => r.tags.get? key
  cell.filter (! ·.isNull)

def SortSpec.order (s : SortSpec) (a b : Run) : Ordering :=
  match s.key.value? a, s.key.value? b with
  | none, none => .eq
  | none, some _ => .gt
  | some _, none => .lt
  | some x, some y => if s.ascending then x.order y else (x.order y).swap

/-- Puts an item before the first one that it precedes. -/
def insertOrdered {α : Type} (order : α → α → Ordering) (a : α) : List α → List α
  | [] => [a]
  | b :: rest => if order a b = .gt then b :: insertOrdered order a rest else a :: b :: rest

/-- The items in order; items that compare equal stay as they stood. -/
def sortStably {α : Type} (order : α → α → Ordering) (items : List α) : List α :=
  items.foldr (insertOrdered order) []

namespace ViewState

/-- What is searched for. -/
def needle (s : ViewState) : List Char := Text.lower (Text.trim s.search.toList)

/-- Whether a run is at the stage and has what is searched for in its identifier or name. -/
def selects (s : ViewState) (r : Run) : Bool :=
  let has (text : String) : Bool := Text.occurs s.needle (Text.lower text.toList)
  decide (r.stage = s.stage) && (s.needle.isEmpty || has r.id || r.name.any has)

def visibleRuns (s : ViewState) (runs : List Run) : List Run :=
  sortStably s.sort.order (runs.filter s.selects)

/-- The places in the table of the runs that are shown, in their order. -/
def visiblePlaces (s : ViewState) (runs : List Run) : List Nat :=
  (sortStably (fun a b => s.sort.order a.1 b.1)
    (runs.zipIdx.filter fun a => s.selects a.1)).map Prod.snd

end ViewState

end RunTable
