import RunTable.Command.Surroundings
import RunTable.Storage.Stored
import RunTable.Text.Bytes

/-!
A disk as it is seen from the working directory: files, directories and databases at places below
it. A place is named by the steps that lead there, and a path is read step by step, each step from
a directory. The places of databases are worked out from their paths alone, so that a step back
undoes the one before it even if nothing is there. Outside the working directory there are only the
directories that it is in, and the null device.
-/

namespace RunTable.Command

/-- What is at a place. -/
inductive Entry where
  | directory
  | text (s : String)
  /-- A database, which may lack its table, and whether its changes go through a log. -/
  | database (table : Option Database) (logged : Bool)
  /-- A file that is neither a text nor a database. -/
  | scrap
  /-- A file that never holds anything. -/
  | device
  deriving DecidableEq

namespace Entry

def isEmpty : Entry → Bool
  | .text s => s = ""
  | _ => false

/-- What is stored in a file for one who keeps a database there. -/
def stored : Entry → Stored
  | .text s => .ofText s
  | .database table logged => .database table logged
  | .directory | .scrap | .device => .other

end Entry

/-- What is at each place below the working directory. -/
structure Disk where
  entries : List (List String × Entry)

namespace Disk

/-- The disk with nothing but the working directory. -/
def empty : Disk := ⟨[]⟩

instance : Inhabited Disk := ⟨empty⟩

/-- The place from which paths begin that tell the whole way. No step has its name. -/
def root : List String := ["/"]

/-- The entries outside the working directory, and this directory itself, which no steps lead to. -/
def outside? (place : List String) : Option Entry :=
  if [[], [".."], root, ["/", "dev"]].contains place then some .directory
  else if place = ["/", "dev", "null"] then some .device
  else none

/-- The place of the directory that a place is in. The root is in itself. -/
def parent (place : List String) : List String :=
  if place = [] then [".."] else if place = [".."] ∨ place = root then root else place.dropLast

def at? (d : Disk) (place : List String) : Option Entry :=
  (outside? place).or ((d.entries.find? (·.1 = place)).map Prod.snd)

/-- Puts an entry at a place, instead of what was there. -/
def put (d : Disk) (place : List String) (entry : Entry) : Disk :=
  ⟨d.entries.filter (·.1 ≠ place) ++ [(place, entry)]⟩

theorem find?_kept (entries : List (List String × Entry)) {place x : List String} (h : x ≠ place) :
    (entries.filter (·.1 ≠ place)).find? (·.1 = x) = entries.find? (·.1 = x) := by
  rw [List.find?_filter]
  congr 1
  funext e
  by_cases he : e.1 = x <;> simp [he, h]

/-- What was put at a place is there. -/
theorem at?_put_self (d : Disk) {place : List String} (h : outside? place = none) (entry : Entry) :
    (d.put place entry).at? place = some entry := by
  have hnone : (d.entries.filter (·.1 ≠ place)).find? (·.1 = place) = none := by
    simp [List.find?_eq_none]
  rw [at?, h, put, List.find?_append, hnone]
  simp

/-- Putting something at a place changes no other. -/
theorem at?_put_of_ne (d : Disk) {place x : List String} (h : x ≠ place) (entry : Entry) :
    (d.put place entry).at? x = d.at? x := by
  have h' : ¬place = x := fun e => h e.symm
  simp only [at?, put, List.find?_append, find?_kept _ h]
  simp [h']

def clear (d : Disk) (place : List String) : Disk := ⟨d.entries.filter (·.1 ≠ place)⟩

/-- Nothing is at a place that was cleared. -/
theorem at?_clear_self (d : Disk) {place : List String} (h : outside? place = none) :
    (d.clear place).at? place = none := by
  rw [at?, h, clear]
  simp [List.find?_eq_none]

/-- Clearing a place changes no other. -/
theorem at?_clear_of_ne (d : Disk) {place x : List String} (h : x ≠ place) :
    (d.clear place).at? x = d.at? x := by
  rw [at?, at?, clear, find?_kept _ h]

/-- The bytes of the longest name. -/
def longestName : Nat := 255

/-- The bytes of the longest path. -/
def longestPath : Nat := 4095

/-- The bytes of the longest place of a database. The path from the root has to be kept within 504
bytes, and 32 of them are left for the working directory. -/
def longestPlace : Nat := 472

/-- Whether a name is too long for a file. -/
def tooLong (name : String) : Bool := longestName < Text.byteCount name

/-- Whether there is a file at a place, and so nothing below it. -/
def holdsFile (d : Disk) (place : List String) : Bool :=
  (d.at? place).any (· ≠ .directory)

def steps (path : String) : List String := (Text.pieces '/' path.toList).map String.ofList

def start (path : String) : List String := if path.startsWith "/" then root else []

/-- Makes the directories on the way that steps lead from a place, up to the first that cannot be
made. -/
def makeDirectories (d : Disk) (place : List String) : List String → Disk
  | [] => d
  | step :: rest =>
    if step = "" ∨ step = "." then d.makeDirectories place rest
    else if step = ".." then d.makeDirectories (parent place) rest
    else if tooLong step then d
    else
      let next := place ++ [step]
      match d.at? next with
      | none => (d.put next .directory).makeDirectories next rest
      | some .directory => d.makeDirectories next rest
      | some _ => d

/-- Where steps lead from a place. Each has to start from a directory. -/
def walk (d : Disk) (place : List String) : List String → Except Found (List String)
  | [] => .ok place
  | step :: rest =>
    match d.at? place with
    | none => .error .missing
    | some .directory =>
      if step = "" ∨ step = "." then d.walk place rest
      else if step = ".." then d.walk (parent place) rest
      else if tooLong step then .error .unreadable
      else d.walk (place ++ [step]) rest
    | some _ => .error .unreadable

def destination (d : Disk) (path : String) : Except Found (List String) :=
  if longestPath < Text.byteCount path then .error .unreadable
  else if path = "" then .error .missing
  else d.walk (start path) (steps path)

def look (d : Disk) (path : String) : Found :=
  match d.destination path with
  | .error found => found
  | .ok place =>
    match d.at? place with
    | none => .missing
    | some (.text s) => .text s
    | some .device => .text ""
    | some _ => .unreadable

def holds (d : Disk) (path : String) : Bool :=
  match d.destination path with
  | .ok place => (d.at? place).isSome
  | .error _ => false

/-- The place that steps name, unless a file or the length of a name stands in the way. -/
def placeAlong (d : Disk) (place : List String) : List String → Option (List String)
  | [] => some place
  | step :: rest =>
    if step = "" ∨ step = "." then d.placeAlong place rest
    else if step = ".." then d.placeAlong (parent place) rest
    else
      let next := place ++ [step]
      if tooLong step || d.holdsFile place || longestPlace < Text.byteCount ("/".intercalate next)
      then none
      else d.placeAlong next rest

/-- The place that the path of a database names. -/
def place? (d : Disk) (path : String) : Option (List String) :=
  d.placeAlong (start path) (steps path)

/-- Makes the directory of a place for databases. -/
def prepare (d : Disk) (location : Location) : Disk :=
  match location.directory with
  | some path =>
    if longestPath < path.utf8ByteSize ∨ path.startsWith "/" then d
    else d.makeDirectories [] (steps path)
  | none => d

/-- Writes a file, and makes the directories that lead to it. -/
def write (d : Disk) (path text : String) : Disk :=
  let d := d.makeDirectories [] (steps path).dropLast
  match d.destination path with
  | .ok place => d.put place (.text text)
  | .error _ => d

def remove (d : Disk) (path : String) : Disk :=
  match d.destination path with
  | .ok place => if d.holdsFile place then d.clear place else d
  | .error _ => d

end Disk

end RunTable.Command
