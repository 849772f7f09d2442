import RunTable.Command.Location
import RunTable.Run.Codec
import RunTable.Storage.Database

/-!
What commands on tables find around them, given as functions, and what they leave, given as a
value: the text that is shown, or why there is none, and the database that was opened, as it is
afterwards.
-/

namespace RunTable.Command

/-- What a path leads to. -/
inductive Found where
  | text (s : String)
  | unreadable
  | missing
  deriving DecidableEq

/-- Why a command fails. -/
inductive CommandError where
  | unreadableRuns (path : String)
  | malformedRuns (path : String)
  | unopenedDatabase (path : String)
  | noDatabase
  | undecodable (row : Undecodable)
  | unwritable (experiment : String)
  | rejected (failure : Failure)
  deriving DecidableEq

def CommandError.message : CommandError → String
  | .unreadableRuns path => "reading runs from " ++ path
  | .malformedRuns path => "parsing runs in " ++ path
  | .unopenedDatabase path => "opening sqlite db at " ++ path
  | .noDatabase => "creating view_state table"
  | .undecodable row => row.message
  | .unwritable experiment => "writing view state for " ++ experiment
  | .rejected failure => failure.message

/-- The runs of the file at a path, given what paths lead to. -/
def runsAt (look : String → Found) (path : String) : Except CommandError (List Run) :=
  match look path with
  | .text s =>
    match Run.readList? s with
    | some runs => .ok runs
    | none => .error (.malformedRuns path)
  | .unreadable | .missing => .error (.unreadableRuns path)

/-- An open database. -/
structure Connection where
  database : Database
  writable : Bool
  /-- What each path leads to while the database is open. -/
  look : String → Found

/-- Opens the database that is stored at a place, or a new one if there is none. A new one needs its
table, so it has to be writable. -/
def Connection.opened (a : Address) (stored : Option Database) (look : String → Found) :
    Except CommandError Connection :=
  match stored with
  | some db => .ok ⟨db, a.writable, look⟩
  | none => if a.writable then .ok ⟨.empty, true, look⟩ else .error .noDatabase

/-- What a command finds around it. -/
structure Surroundings where
  /-- What each path leads to. -/
  look : String → Found
  connect : Location → Except CommandError Connection
  /-- The place of the database if none is named. -/
  location : Location
  /-- The time in seconds. -/
  second : Int

/-- What a command leaves: the place where it wanted a database, with the database that is there
afterwards if it was opened, and what it shows or why it fails. -/
structure Report where
  visit : Option (Location × Option Database)
  result : Except CommandError String

/-- Opens a database and uses it; it is left even if its use fails. -/
def Surroundings.withDatabase (around : Surroundings) (location : Location)
    (use : Connection → Database × Except CommandError String) : Report :=
  match around.connect location with
  | .error e => ⟨some (location, none), .error e⟩
  | .ok connection =>
    let (db, result) := use connection
    ⟨some (location, some db), result⟩

end RunTable.Command
