import RunTable.Run

/-!
The attributes of a run: the columns that every table has, under fixed labels and before all
others.
-/

namespace RunTable

/-- An attribute of runs. -/
inductive Attribute where
  | startTime
  | duration
  | runId
  | name
  | sourceType
  | sourceName
  | user
  | status
  deriving DecidableEq

namespace Attribute

def all : List Attribute :=
  [.startTime, .duration, .runId, .name, .sourceType, .sourceName, .user, .status]

def label : Attribute → String
  | .startTime => "Start Time"
  | .duration => "Duration"
  | .runId => "Run ID"
  | .name => "Name"
  | .sourceType => "Source Type"
  | .sourceName => "Source Name"
  | .user => "User"
  | .status => "Status"

/-- The name of the attribute in stored data. -/
def identifier : Attribute → String
  | .startTime => "StartTime"
  | .duration => "Duration"
  | .runId => "RunId"
  | .name => "Name"
  | .sourceType => "SourceType"
  | .sourceName => "SourceName"
  | .user => "User"
  | .status => "Status"

def width : Attribute → Nat
  | .startTime => 160
  | .duration => 80
  | .runId => 260
  | .name => 160
  | .sourceType => 100
  | .sourceName => 200
  | .user => 120
  | .status => 90

/-- The attribute with a label, the letters A to Z in either case. -/
def ofLabel? (s : String) : Option Attribute :=
  all.find? fun a => Text.asciiLower a.label.toList = Text.asciiLower s.toList

end Attribute

def Json.Cell.ofInt64 (n : Int64) : Json.Cell :=
  .integer ⟨n.toInt, n.le_toInt, Int.lt_trans n.toInt_lt (by decide)⟩

/-- The difference of two integers, if it fits into 64 bits. -/
def subtract? (a b : Int64) : Option Int64 :=
  let d := a.toInt - b.toInt
  if -signedLimit ≤ d ∧ d < signedLimit then some (Int64.ofInt d) else none

/-- The duration of a run in milliseconds: it has an end, a start after the beginning of 1970, and
the end is not before the start. -/
def Run.duration? (r : Run) : Option Int64 :=
  match r.endTime with
  | some stop => if 0 < r.startTime then (subtract? stop r.startTime).filter (0 ≤ ·) else none
  | none => none

def Attribute.value (a : Attribute) (r : Run) : Json.Cell :=
  match a with
  | .startTime => .ofInt64 r.startTime
  | .duration =>
    match r.duration? with
    | some d => .ofInt64 d
    | none => .null
  | .runId => .text r.id
  | .name =>
    match r.name with
    | some s => .text s
    | none => .null
  | .sourceType => .text r.sourceType
  | .sourceName => .text r.sourceName
  | .user => .text r.user
  | .status => .text r.status.name

end RunTable
