import RunTable.Failure
import RunTable.Text.Pieces

/-!
The four categories of columns in a run table, in the order in which the table shows them.
-/

namespace RunTable

/-- A category of columns. -/
inductive Category where
  | attributes
  | params
  | metrics
  | tags
  deriving DecidableEq

namespace Category

def all : List Category := [.attributes, .params, .metrics, .tags]

/-- The categories whose columns are found in the runs, in table order. -/
def keyed : List Category := [.params, .metrics, .tags]

def name : Category → String
  | .attributes => "attributes"
  | .params => "params"
  | .metrics => "metrics"
  | .tags => "tags"

def ofName? (s : String) : Option Category := all.find? (·.name = s)

/-- The category that a text in lower case names, in full, in the singular, or for short. -/
def ofAlias? : String → Option Category
  | "attributes" | "attribute" | "attrs" => some .attributes
  | "params" | "param" => some .params
  | "metrics" | "metric" => some .metrics
  | "tags" | "tag" => some .tags
  | _ => none

/-- The category that a text names, the letters A to Z in either case. -/
def parse (s : String) : Except Failure Category :=
  let lowered := String.ofList (Text.asciiLower s.toList)
  match ofAlias? lowered with
  | some c => .ok c
  | none => .error (.unknownCategory lowered)

end Category

end RunTable
