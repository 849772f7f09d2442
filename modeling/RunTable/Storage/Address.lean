import RunTable.Json.StringLiteral
import RunTable.Number.Digits
import RunTable.Text.Bytes

/-!
Where a database is and how it may be used, as one text tells it. Most texts are paths. A text that
begins with `file:` is a reference: a path, and after a question mark perhaps parameters, with
ampersands between them. Any byte of a part may be written as a percent sign and two digits, which
is read after the parts have been told apart, so that an escaped separator separates nothing. What
follows a `#` has no meaning.
-/

namespace RunTable

/-- What may be done with the file of a database; each right includes those before it. -/
inductive Access where
  | reading
  | writing
  | creating
  deriving DecidableEq

namespace Access

def includes : Access → Access → Bool
  | .creating, _ => true
  | .writing, a => a ≠ .creating
  | .reading, a => a = .reading

end Access

/-- How those who use a database keep out of each other's way: by locks on its file, by one lock
that lets in nobody else, by a directory beside it, by nothing, or by having each a database of
their own in memory. -/
inductive Keeper where
  | locks
  | exclusion
  | marker
  | nothing
  | memory
  deriving DecidableEq

/-- The keepers by their names. -/
def Keeper.byName : List (String × Keeper) :=
  [("unix", .locks), ("unix-excl", .exclusion), ("unix-dotfile", .marker), ("unix-none", .nothing),
    ("memdb", .memory)]

/-- The place of a database, and how it is used there. -/
structure Address where
  path : String
  access : Access
  keeper : Keeper
  temporary : Bool
  /-- Whether the file is taken for one that nobody changes. -/
  frozen : Bool
  /-- Whether the keeper is left out. -/
  unlocked : Bool
  /-- Whether the index of a log may be read only. -/
  indexFixed : Bool
  /-- The path of a file whose rights a new file takes, and which has to be there. -/
  model : Option String
  deriving DecidableEq

namespace Address

/-- Whether a path names no file, so that a database there is forgotten. -/
def nameless (path : String) : Bool := path = "" || path = ":memory:"

def ofPath (path : String) : Address :=
  ⟨path, .creating, .locks, nameless path, false, false, false, none⟩

/-- Whether rows may be written, as far as the address tells. -/
def writable (a : Address) : Bool := a.access ≠ .reading && !a.frozen

def logs (a : Address) : Bool := !a.unlocked && (a.keeper = .locks || a.keeper = .exclusion)

/-- Whether the index of a log is a file. One who lets nobody else in has it in memory; one who only
reads cannot keep others out. -/
def sharesIndex (a : Address) : Bool := a.keeper = .locks || a.access = .reading

/-- The bytes that a part of a reference spells. A null byte ends it. -/
def partBytes : List Char → List UInt8
  | '%' :: a :: b :: rest =>
    match Json.hexValue? a, Json.hexValue? b with
    | some high, some low =>
      if high = 0 ∧ low = 0 then [] else UInt8.ofNat (16 * high + low) :: partBytes rest
    | _, _ => String.utf8EncodeChar '%' ++ partBytes (a :: b :: rest)
  | c :: rest => String.utf8EncodeChar c ++ partBytes rest
  | [] => []

/-- The name that a part of a reference spells. -/
def partText (part : List Char) : String := Text.ofBytes (partBytes part)

/-- What stands before and after the first separator; all is before it if there is none. -/
def cut (separator : Char) (s : List Char) : List Char × List Char :=
  (Text.splitFirst separator s).getD (s, [])

/-- The parameters of a reference. Those without a name are left out. -/
def parameters (s : List Char) : List (String × String) :=
  ((Text.pieces '&' s).map fun part =>
    let (name, value) := cut '=' part
    (partText name, partText value)).filter (·.1 ≠ "")

/-- A reference without the host that it may begin with, which can only be this one. -/
def local? : List Char → Option (List Char)
  | '/' :: '/' :: rest =>
    let host := String.ofList (rest.takeWhile (· ≠ '/'))
    if host = "" ∨ host = "localhost" then some (rest.dropWhile (· ≠ '/')) else none
  | s => some s

def access? : String → Option Access
  | "ro" => some .reading
  | "rw" => some .writing
  | "rwc" => some .creating
  | _ => none

/-- The right after a parameter, none standing for a database in memory. A right on a file may be
narrowed but not widened. -/
def narrow (right : Option Access) : String × String → Option (Option Access)
  | ("mode", "memory") => some none
  | ("mode", name) => do
    let narrower ← access? name
    if right.all (·.includes narrower) then some (some narrower) else none
  | ("cache", name) => if name = "shared" ∨ name = "private" then some right else none
  | _ => some right

/-- The digits of base sixteen at the front of a text. -/
def hexDigits : List Char → List Nat
  | [] => []
  | c :: rest => (Json.hexValue? c).elim [] (· :: hexDigits rest)

/-- The number that a value begins with, in base sixteen after `0x`. -/
def leadingNumber (value : List Char) : Nat :=
  match value with
  | '0' :: x :: rest =>
    if (x = 'x' ∨ x = 'X') ∧ hexDigits rest ≠ [] then
      (hexDigits rest).foldl (fun n d => 16 * n + d) 0
    else spelled (takeDigits value).1
  | _ => spelled (takeDigits value).1

/-- Whether the value of a switch turns it on: a word for it, or a number other than zero, of which
only the last byte counts, and which is zero if it is too large. -/
def turnsOn (value : String) : Bool :=
  if value.toList.head?.any Char.isDigit then
    let n := leadingNumber value.toList
    n < 2147483648 && n % 256 ≠ 0
  else ["on", "yes", "true"].contains (.ofList (Text.asciiLower value.toList))

/-- The value of the first parameter of a name. -/
def value? (ps : List (String × String)) (name : String) : Option String :=
  (ps.find? (·.1 = name)).map Prod.snd

def switchedOn (ps : List (String × String)) (name : String) : Bool := (value? ps name).any turnsOn

/-- The place that a reference tells, without the word that it begins with. -/
def ofReference? (s : List Char) : Option Address := do
  let s ← local? s
  let (path, query) := cut '?' (cut '#' s).1
  let path := partText path
  let ps := parameters query
  let right ← ps.foldlM narrow (some .creating)
  let name := ((ps.filter (·.1 = "vfs")).getLast?.map Prod.snd).getD "unix"
  let keeper ← (Keeper.byName.find? (·.1 = name)).map Prod.snd
  let unkept := right.isNone || nameless path
  some {
    path
    access := right.getD .writing
    keeper
    temporary := unkept || keeper = .memory
    frozen := !unkept && switchedOn ps "immutable"
    unlocked := switchedOn ps "nolock"
    indexFixed := switchedOn ps "readonly_shm"
    model := value? ps "modeof" }

/-- The place that a text tells, unless it is a reference that makes no sense. -/
def parse? (text : String) : Option Address :=
  match text.toList with
  | 'f' :: 'i' :: 'l' :: 'e' :: ':' :: rest => ofReference? rest
  | _ => some (ofPath text)

end Address

end RunTable
