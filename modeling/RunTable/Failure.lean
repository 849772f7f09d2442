/-!
Failures: what can go wrong with a request, by kind, and the text that tells it.
-/

namespace RunTable

/-- A failure of some kind, with the particulars as text. -/
inductive Failure where
  | validation (detail : String)
  | notFound (detail : String)
  | storage (detail : String)
  | internal (detail : String)
  deriving DecidableEq

namespace Failure

def kind : Failure → String
  | .validation _ => "validation"
  | .notFound _ => "not_found"
  | .storage _ => "storage"
  | .internal _ => "internal"

def detail : Failure → String
  | .validation s | .notFound s | .storage s | .internal s => s

/-- The whole text of a failure: its kind, a colon and the particulars. -/
def message (f : Failure) : String := f.kind ++ ": " ++ f.detail

def unknownCategory (text : String) : Failure :=
  .validation ("unknown column set '" ++ text ++ "'")

/-- A text that names no column to sort by. -/
def badSortKey (text : String) : Failure := .validation ("bad sort key '" ++ text ++ "'")

end Failure

end RunTable
