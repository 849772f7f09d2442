import RunTable.Text.Lowercase
import RunTable.Text.Pieces

/-!
Filters on column names. A filter is the text that the user typed; its terms, which are cut at
commas, trimmed and put into lower case, are worked out from it. A name passes if its lower-case
form contains one of the terms, or if there are none.
-/

namespace RunTable

/-- A filter on column names, by its text. -/
structure KeyFilter where
  raw : String
  deriving DecidableEq

namespace KeyFilter

def all : KeyFilter := ⟨""⟩

def termsOf (s : List Char) : List (List Char) :=
  ((Text.pieces ',' s).map fun piece => Text.lower (Text.trim piece)).filter (! ·.isEmpty)

def terms (f : KeyFilter) : List (List Char) := termsOf f.raw.toList

def isEmpty (f : KeyFilter) : Bool := f.terms.isEmpty

def passes (f : KeyFilter) (key : String) : Bool :=
  f.terms.isEmpty || f.terms.any (Text.occurs · (Text.lower key.toList))

def apply (f : KeyFilter) (keys : List String) : List String := keys.filter f.passes

end KeyFilter

end RunTable
