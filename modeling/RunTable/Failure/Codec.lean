import RunTable.Failure
import RunTable.Json.Record

/-!
Failures as JSON: an object whose only member has the kind as its name and the particulars as its
content.
-/

namespace RunTable.Failure

open Json

/-- The name of the kind in stored data. -/
def identifier : Failure → String
  | .validation _ => "Validation"
  | .notFound _ => "NotFound"
  | .storage _ => "Storage"
  | .internal _ => "Internal"

def ofDocument? (depth : Nat) (d : Document) : Option Failure := do
  let (name, content) ← d.variant? depth
  let (_, content) ← content
  let detail ← content.string?
  match name with
  | "Validation" => some (.validation detail)
  | "NotFound" => some (.notFound detail)
  | "Storage" => some (.storage detail)
  | "Internal" => some (.internal detail)
  | _ => none

def toDocument (f : Failure) : Document := .record [(f.identifier, .text f.detail)]

end RunTable.Failure
