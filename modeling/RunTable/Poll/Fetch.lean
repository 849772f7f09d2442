import RunTable.Failure

/-!
Fetching: what a source answers when it is asked for a resource.
-/

namespace RunTable.Poll

/-- Why there are no data: the resource is gone, or something else went wrong for now. -/
inductive FetchError where
  | notFound (detail : String)
  | transient (detail : String)
  deriving DecidableEq

namespace FetchError

/-- A failure as a fetch tells it: only a missing resource is final. -/
def ofFailure : Failure → FetchError
  | .notFound detail => .notFound detail
  | f => .transient f.message

def kind : FetchError → String
  | .notFound _ => "not_found"
  | .transient _ => "transient"

def message : FetchError → String
  | .notFound detail => "not_found: " ++ detail
  | .transient detail => "transient: " ++ detail

end FetchError

/-- What a fetch brings: data of type `δ`, or an error. -/
abbrev Reply (δ : Type) := Except FetchError δ

/-- A reply, and the milliseconds that it takes. -/
structure Answer (δ : Type) where
  delay : Nat
  reply : Reply δ

/-- What is answered to each fetch of each resource; the fetches of a resource count from one. -/
abbrev Source (δ : Type) := String → Nat → Answer δ

end RunTable.Poll
