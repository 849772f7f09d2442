/-!
The record of requests. A request is active from its beginning until it is finished, and stays on
record for good. The number of active ones is kept beside the record.
-/

namespace RunTable.Poll

/-- A request for a resource. -/
structure Request where
  resource : String
  active : Bool
  deriving DecidableEq

/-- All requests in the order of their beginning, and how many of them are active. -/
structure Requests where
  records : List Request
  activeCount : Nat
  deriving DecidableEq

namespace Requests

def empty : Requests := ⟨[], 0⟩

def size (r : Requests) : Nat := r.records.length

def isEmpty (r : Requests) : Bool := r.records.isEmpty

def anyActive (r : Requests) : Bool := 0 < r.activeCount

/-- The request with a number; requests are numbered from zero in the order of their beginning. -/
def get? (r : Requests) (number : Nat) : Option Request := r.records[number]?

/-- Begins a request and gives it the next number. -/
def start (r : Requests) (resource : String) : Requests × Nat :=
  (⟨r.records ++ [⟨resource, true⟩], r.activeCount + 1⟩, r.records.length)

/-- Finishes a request, and tells whether it was active. -/
def finish (r : Requests) (number : Nat) : Requests × Bool :=
  match r.get? number with
  | some ⟨resource, true⟩ =>
    (⟨r.records.set number ⟨resource, false⟩, r.activeCount - 1⟩, true)
  | _ => (r, false)

def finishAll (r : Requests) (numbers : List Nat) : Requests :=
  numbers.foldl (fun r n => (r.finish n).1) r

end Requests

end RunTable.Poll
