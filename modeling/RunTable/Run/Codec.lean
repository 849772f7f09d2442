import RunTable.Run
import RunTable.Json.Record

/-!
Runs as JSON. Only the identifier and the start have to be given; what else is missing is empty,
running, and active. Encoded runs have all their fields, in one order.
-/

namespace RunTable

open Json

/-- The fields of a run in encoding order. -/
def Run.fieldNames : List String :=
  ["run_id", "name", "start_time", "end_time", "source_type", "source_name", "user", "status",
    "lifecycle_stage", "params", "metrics", "tags"]

def Run.ofDocument? (depth : Nat) (d : Document) : Option Run := do
  let (depth, field) ← d.record? depth fieldNames
  let id ← required? field "run_id" Document.string?
  let name ← given? field "name" none (Document.optional? Document.string?)
  let startTime ← required? field "start_time" Document.int64?
  let endTime ← given? field "end_time" none (Document.optional? Document.int64?)
  let sourceType ← given? field "source_type" "" Document.string?
  let sourceName ← given? field "source_name" "" Document.string?
  let user ← given? field "user" "" Document.string?
  let status ← given? field "status" .running (Document.choice? depth RunStatus.byName)
  let stage ← given? field "lifecycle_stage" .active (Document.choice? depth LifecycleStage.byName)
  let params ← given? field "params" .empty (Document.cellMap? depth)
  let metrics ← given? field "metrics" .empty (Document.cellMap? depth)
  let tags ← given? field "tags" .empty (Document.cellMap? depth)
  some ⟨id, name, startTime, endTime, sourceType, sourceName, user, status, stage, params, metrics,
    tags⟩

def int64Document (n : Int64) : Document := .number (Numeral.ofInt n.toInt)

def Run.toDocument (r : Run) : Document :=
  .record [
    ("run_id", .text r.id),
    ("name", r.name.elim .null .text),
    ("start_time", int64Document r.startTime),
    ("end_time", r.endTime.elim .null int64Document),
    ("source_type", .text r.sourceType),
    ("source_name", .text r.sourceName),
    ("user", .text r.user),
    ("status", .text r.status.name),
    ("lifecycle_stage", .text r.stage.name),
    ("params", cellMapDocument r.params),
    ("metrics", cellMapDocument r.metrics),
    ("tags", cellMapDocument r.tags)]

def Run.listOfDocument? (depth : Nat) (d : Document) : Option (List Run) :=
  d.list? depth Run.ofDocument?

def Run.readList? (s : String) : Option (List Run) :=
  (Document.read? s).bind (Run.listOfDocument? nestingLimit)

def Run.writeList (runs : List Run) : String := (Document.array (runs.map Run.toDocument)).write

end RunTable
