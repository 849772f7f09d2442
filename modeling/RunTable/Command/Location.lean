import RunTable.Storage.Address

/-!
Where the database of view states is kept: at a path that is named, or else in a directory of the
user's home, which is made if it is missing.
-/

namespace RunTable.Command

/-- The place of a database, as it is told, and the directory that is made for it before it is
opened. -/
structure Location where
  path : String
  directory : Option String
  deriving DecidableEq

namespace Location

def below (directory name : String) : String :=
  if directory = "" ∨ directory.endsWith "/" then directory ++ name else directory ++ "/" ++ name

def named (path : String) : Location := ⟨path, none⟩

/-- The place in a home, or in the working directory for users without one. -/
def ofHome : Option String → Location
  | some home =>
    let directory := below home ".runboard"
    ⟨below directory "runboard.db", some directory⟩
  | none => named "runboard.db"

/-- The address of the place, unless its path makes no sense. -/
def address? (l : Location) : Option Address := Address.parse? l.path

end Location

end RunTable.Command
