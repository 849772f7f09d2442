import RunTable.HiddenKeys
import RunTable.Run.Columns

/-!
Constant columns: those that diff view hides because every run has the same value in them. A run
that lacks a key differs from one that has it, so a key is constant only if every run has it.
-/

namespace RunTable

/-- Whether every run has the same value of an attribute as the first one. -/
def attributeConstant (first : Run) (rest : List Run) (a : Attribute) : Bool :=
  rest.all fun r => (a.value r).same (a.value first)

/-- Whether every run has a key, and the same value under it as the first one. -/
def keyConstant (first : Run) (rest : List Run) (c : Category) (key : String) : Bool :=
  match (first.cells c).get? key with
  | none => false
  | some v => rest.all fun r =>
    match (r.cells c).get? key with
    | none => false
    | some w => w.same v

/-- The columns that have the same value in every run. A table without runs has none. -/
def constantColumns : List Run → HiddenKeys
  | [] => .none
  | first :: rest => .ofCategories fun c =>
    match c with
    | .attributes =>
      .ofList ((Attribute.all.filter (attributeConstant first rest)).map Attribute.label)
    | c => .ofList ((columnKeys (first :: rest) c).filter (keyConstant first rest c))

end RunTable
