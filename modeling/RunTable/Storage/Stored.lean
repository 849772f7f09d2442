import RunTable.Storage.Database

/-!
What the bytes of a file hold for one who keeps a database there. The first page of a database tells
in its first hundred bytes how the file is laid out; after them stands the page of the table of
tables. A file that is shorter than a page is read as if it went on with zeros.

A text can be a database at the same time. The names of its tables are short then, and the text that
made the table of view states is too long to be among theirs; so these are databases without this
table, though they may have others (`FirstPage.lacksTable`).
-/

namespace RunTable

/-- The bytes at the beginning of a file. -/
structure FirstPage where
  bytes : ByteArray

namespace FirstPage

def byte (p : FirstPage) (i : Nat) : Nat := (p.bytes.data[i]?.getD 0).toNat

/-- The number in two bytes. -/
def half (p : FirstPage) (i : Nat) : Nat := 256 * p.byte i + p.byte (i + 1)

/-- The number in four bytes. -/
def word (p : FirstPage) (i : Nat) : Nat := 65536 * p.half i + p.half (i + 2)

def mark : List Nat := ("SQLite format 3\x00".toList).map Char.toNat

/-- The bytes of a page. The largest size has its byte last. -/
def pageSize (p : FirstPage) : Nat := 256 * p.byte 16 + 65536 * p.byte 17

/-- The bytes of a page that are in use. -/
def usableSize (p : FirstPage) : Nat := p.pageSize - p.byte 20

/-- The pages that the file has room for. -/
def filePages (p : FirstPage) : Nat := (p.bytes.size + p.pageSize - 1) / p.pageSize

/-- The pages of the database: their number is written down, but counts only if it was written
together with the last change. -/
def pages (p : FirstPage) : Nat :=
  if p.word 28 = 0 ∨ p.word 24 ≠ p.word 92 then p.filePages else p.word 28

/-- Whether the file is laid out as a database is. -/
def isFormed (p : FirstPage) : Bool :=
  (List.range 16).map p.byte = mark && p.byte 18 ≤ 2 && p.byte 19 ≤ 2 &&
    [p.byte 21, p.byte 22, p.byte 23] = [64, 32, 32] &&
    [512, 1024, 2048, 4096, 8192, 16384, 32768, 65536].contains p.pageSize &&
    480 ≤ p.usableSize && p.pages ≤ p.filePages && p.byte 47 ≤ 4

/-- A number in groups of seven bits, each but the last with its high bit set, of which there are at
most so many before a whole byte; and the place after it. -/
def numberFrom (p : FirstPage) (i n : Nat) : Nat → Nat × Nat
  | 0 => (256 * n + p.byte i, i + 1)
  | groups + 1 =>
    if p.byte i < 128 then (128 * n + p.byte i, i + 1)
    else p.numberFrom (i + 1) (128 * n + p.byte i - 128) groups

/-- The number at a place, and the place after it. -/
def number (p : FirstPage) (i : Nat) : Nat × Nat := p.numberFrom i 0 8

/-- The bytes of a text whose type is a number, unless this is the type of other values. -/
def textSize? (type : Nat) : Option Nat :=
  if 13 ≤ type ∧ type % 2 = 1 then some ((type - 13) / 2) else none

/-- A part of the page in lower case, where only letters of the alphabet are changed. -/
def lowercase (p : FirstPage) (i size : Nat) : List Char :=
  Text.asciiLower ((List.range size).map fun k => Char.ofNat (p.byte (i + k)))

def cells (p : FirstPage) : Nat := p.half 103

/-- Whether a text tells how something was made that is not the table of view states, given where
its kind stands, which is followed by its name, and where the text stands. -/
def isMaking (p : FirstPage) (kindAt kind name textAt : Nat) : Bool :=
  let nameWord := p.lowercase (kindAt + kind) name
  let made := "create ".toList ++ p.lowercase kindAt kind ++ " ".toList ++ nameWord
  nameWord ≠ "view_state".toList && p.lowercase textAt made.length = made

/-- Whether something of a kind can begin at a page. What has no rows has no page. -/
def canBeginAt (p : FirstPage) (kind : List Char) (page : Nat) : Bool :=
  if ["table".toList, "index".toList].contains kind then 2 ≤ page && page ≤ p.pages else page = 0

/-- Whether a cell tells of something other than the table of view states: its kind and name, the
name of its table, the page where it begins, if it has one, and the text that made it. -/
def isForeign (p : FirstPage) (cell : Nat) : Bool :=
  let (size, i) := p.number (p.half (108 + 2 * cell))
  let (_, start) := p.number i
  let (header, i) := p.number start
  let (kind, i) := p.number i
  let (name, i) := p.number i
  let (table, i) := p.number i
  let (page, i) := p.number i
  let (text, i) := p.number i
  match textSize? kind, textSize? name, textSize? table, textSize? text with
  | some kind, some name, some table, some text =>
    let pageAt := i + kind + name + table
    let textAt := if page = 1 then pageAt + 1 else pageAt
    header = i - start && (page = 1 || page = 8) && size = textAt + text - start &&
      size + 35 ≤ p.usableSize && textAt + text ≤ p.usableSize &&
      p.canBeginAt (p.lowercase i kind) (if page = 1 then p.byte pageAt else 0) &&
      p.isMaking i kind name textAt
  | _, _, _, _ => false

/-- Where the cells of the table of tables begin. -/
def cellStart (p : FirstPage) : Nat := if p.half 105 = 0 then 65536 else p.half 105

/-- The bytes of a cell that tells of the index of a table, with its place in the list of cells. -/
def indexCell : Nat := 88

/-- Whether the table of tables is a leaf without gaps, whose cells begin after the list of their
places and leave room for one more. -/
def hasLeaf (p : FirstPage) : Bool :=
  let used := p.byte 107 + p.cellStart
  p.byte 100 = 13 && p.half 101 = 0 && 108 + 2 * p.cells + indexCell ≤ used && used ≤ p.usableSize

/-- Whether there is a database without the table of view states, and pages can be added to it. -/
def lacksTable (p : FirstPage) : Bool :=
  p.isFormed && p.hasLeaf && p.word 36 = 0 && p.word 52 ≤ p.pages &&
    (List.range p.cells).all p.isForeign

def isLogged (p : FirstPage) : Bool := p.byte 19 = 2

end FirstPage

/-- What is stored in a file: nothing, a database, which may lack its table and have its changes go
through a log, or something else. -/
inductive Stored where
  | nothing
  | database (table : Option Database) (logged : Bool)
  | other
  deriving DecidableEq

namespace Stored

/-- The table of a database, if it has one. -/
def table? : Stored → Option Database
  | .database table _ => table
  | .nothing | .other => none

/-- Whether the changes of a database go through a log. -/
def isLogged : Stored → Bool
  | .database _ logged => logged
  | .nothing | .other => false

/-- What is stored in the file of a text. A single byte does not count. -/
def ofText (s : String) : Stored :=
  let p : FirstPage := ⟨s.toUTF8⟩
  if s.utf8ByteSize ≤ 1 then .nothing
  else if p.lacksTable then .database none p.isLogged
  else .other

end Stored

end RunTable
