import RunTable.Number.Numeral

/-!
Documents: JSON as it is written, before it means anything. Members of an object keep their order
and may repeat a name, numbers keep their digits, and a string whose escapes do not pair up to
characters is kept as such, since it matters only where the string is used.
-/

namespace RunTable.Json

/-- A JSON document as written. -/
inductive Document where
  | null
  | bool (b : Bool)
  | number (n : Numeral)
  | string (s : Option String)
  | array (items : List Document)
  | object (members : List (Option String × Document))

namespace Document

instance : Inhabited Document := ⟨.null⟩

def text (s : String) : Document := .string (some s)

def texts (ss : List String) : Document := .array (ss.map text)

def record (members : List (String × Document)) : Document :=
  .object (members.map fun (name, d) => (some name, d))

end Document

/-- The smallest piece of written JSON that means something. -/
inductive Token where
  | openArray
  | closeArray
  | openObject
  | closeObject
  | comma
  | colon
  | null
  | bool (b : Bool)
  | number (n : Numeral)
  | string (s : Option String)
  deriving DecidableEq

mutual

/-- The tokens of a document in writing order. -/
def Document.tokens : Document → List Token
  | .null => [.null]
  | .bool b => [.bool b]
  | .number n => [.number n]
  | .string s => [.string s]
  | .array items => .openArray :: itemTokens items
  | .object members => .openObject :: memberTokens members

/-- The tokens after the opening bracket of an array. -/
def itemTokens : List Document → List Token
  | [] => [.closeArray]
  | d :: rest => d.tokens ++ moreItemTokens rest

/-- The tokens after an item of an array. -/
def moreItemTokens : List Document → List Token
  | [] => [.closeArray]
  | d :: rest => .comma :: d.tokens ++ moreItemTokens rest

/-- The tokens after the opening brace of an object. -/
def memberTokens : List (Option String × Document) → List Token
  | [] => [.closeObject]
  | (name, d) :: rest => .string name :: .colon :: d.tokens ++ moreMemberTokens rest

/-- The tokens after a member of an object. -/
def moreMemberTokens : List (Option String × Document) → List Token
  | [] => [.closeObject]
  | (name, d) :: rest => .comma :: .string name :: .colon :: d.tokens ++ moreMemberTokens rest

end

end RunTable.Json
