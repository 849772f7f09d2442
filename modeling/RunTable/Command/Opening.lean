import RunTable.Command.Disk

/-!
Databases on a disk: how they are opened, and what is left of them.

Files are kept beside a database under longer names. A journal tells how pages were before a change,
so that a change that broke off can be taken back. A log holds changes that are not made in the file
of the database yet; an index tells where in the log a page is. The last one to leave a database
carries the changes over and removes log and index, if it may write. Some keepers also make a
directory there, to keep others out.

A database is read first as it is. If it can have a log it is then changed to have one, which takes
a journal, and is read again. Last a table is made if there is none. Each of these can fail, and the
disk is left as it is then.
-/

namespace RunTable.Command

/-- What is kept beside a database. -/
inductive Companion where
  | journal
  | log
  | index
  | marker
  deriving DecidableEq

/-- The end of the name of a companion, which begins with the name of the database. -/
def Companion.ending : Companion → String
  | .journal => "-journal"
  | .log => "-wal"
  | .index => "-shm"
  | .marker => ".lock"

/-- The index of an open log: one that nobody else uses, or one in a file. Of a file that may be
read only it is not known whether it is true; so the log is read without it. There may be no index
at all, and then the log is of no use. -/
inductive LogIndex where
  | own
  | shared
  | doubtful
  | absent
  deriving DecidableEq

/-- Whether changes can be added to a log with such an index. -/
def LogIndex.isWritable (i : LogIndex) : Bool := i = .own || i = .shared

/-- A database in use: the disk, the index of its log if that is open, and what is stored in its
file if that can be read. -/
structure Use where
  disk : Disk
  log : Option LogIndex
  stored : Option Stored

/-- A visit to the place of a database: whether it can be used, and the disk after it was left as
it was then, if it could be. -/
structure Visit where
  result : Except CommandError Connection
  after : Option Database → Disk

namespace Disk

def beside (place : List String) (c : Companion) : List String :=
  place.dropLast ++ [place.getLast?.getD "" ++ c.ending]

/-- Whether no file can be made at a place. -/
def blocks (d : Disk) (place : List String) : Bool :=
  d.at? place = some .directory || place.getLast?.any tooLong

def stored (d : Disk) (place : List String) : Stored := (d.at? place).elim .nothing Entry.stored

/-- Whether a journal tells of no change that broke off: its first byte is zero. -/
def isFinished (journal : Entry) : Bool :=
  match journal with
  | .text s => s.startsWith "\x00"
  | _ => false

/-- The disk after changes were taken back that broke off, unless that fails or the database is in
use. Those who keep others out by a directory take their own for that of one who is still at
work. -/
def recovered? (d : Disk) (a : Address) (place : List String) : Option Disk :=
  let marked := (d.at? (beside place .marker)).isSome
  if a.keeper = .marker && !a.unlocked && (marked || d.blocks (beside place .marker)) then none
  else
    match d.at? (beside place .journal) with
    | none => some d
    | some journal =>
      let removed := d.clear (beside place .journal)
      if journal.isEmpty || (a.keeper = .marker && (marked || !a.unlocked)) then some d
      else if d.stored place = .nothing then
        some (if journal = .directory || (a.access = .reading && a.logs) then d else removed)
      else if journal = .directory then none
      else if isFinished journal then some d
      else if a.access = .reading then none
      else some removed

/-- Whether a log without a trusted index can be told to have stayed the same: it is too short for
changes, or has no salt. -/
def isSteady (log : Entry) : Bool :=
  match log with
  | .text s =>
    let bytes := s.toUTF8.toList
    bytes.length < 32 || ((bytes.drop 16).take 8).all (· = 0)
  | _ => false

def openIndex (d : Disk) (a : Address) (place : List String) (log : Entry) : Disk × LogIndex :=
  let index := d.at? (beside place .index)
  let readable := if isSteady log then LogIndex.doubtful else .absent
  if !a.sharesIndex then (d, .own)
  else if index = some .directory then (d, readable)
  else if a.indexFixed then (d, if index.isNone then .absent else readable)
  else (d.put (beside place .index) .scrap, .shared)

/-- Opens the log, which is made if there is none. -/
def openLog (d : Disk) (a : Address) (place : List String) : Use :=
  let file := beside place .log
  if !a.logs || d.blocks file then ⟨d, none, none⟩
  else
    let log := (d.at? file).getD (.text "")
    let (d, index) := (d.put file log).openIndex a place log
    let stored := d.stored place
    ⟨d, some index, if index = .absent ∨ stored = .other then none else some stored⟩

/-- Reads a database. A log with something in it is used if there is a database that it can belong
to, and removed if there is none. -/
def readDatabase (d : Disk) (a : Address) (place : List String) : Use :=
  match d.recovered? a place with
  | none => ⟨d, none, none⟩
  | some d =>
    let file := beside place .log
    let log := (d.at? file).filter (!·.isEmpty)
    match d.stored place, log with
    | .nothing, some .directory => ⟨d, none, none⟩
    | .nothing, some _ => ⟨d.clear file, none, some .nothing⟩
    | .database _ true, _ | _, some _ => d.openLog a place
    | .other, none => ⟨d, none, none⟩
    | stored, none => ⟨d, none, some stored⟩

end Disk

namespace Use

def rewrite (u : Use) (place : List String) (entry : Entry) : Disk :=
  (u.disk.clear (Disk.beside place .journal)).put place entry

/-- Whether a file can be changed: through a journal, or else through a log. -/
def canWrite (u : Use) (a : Address) (place : List String) : Bool :=
  a.access ≠ .reading && match u.log with
    | none => !u.disk.blocks (Disk.beside place .journal)
    | some index => index.isWritable

/-- Changes a database that can have a log to have one. -/
def withLog (u : Use) (a : Address) (place : List String) : Use :=
  match u.stored with
  | some stored =>
    if u.log.isNone && a.logs && u.canWrite a place then
      (u.rewrite place (.database stored.table? true)).readDatabase a place
    else u
  | none => u

/-- The disk while the database is used. A table that is new is in the log, or else in the file. -/
def withTable (u : Use) (place : List String) (stored : Stored) : Disk :=
  if stored.table?.isSome then u.disk
  else if u.log.isSome then u.disk.put (Disk.beside place .log) .scrap
  else u.rewrite place (.database (some .empty) stored.isLogged)

/-- Leaves a database with its file as it is. -/
def close (u : Use) (a : Address) (place : List String) : Disk :=
  match u.log with
  | some .own => u.disk.clear (Disk.beside place .log)
  | some .shared =>
    if a.access = .reading then u.disk
    else (u.disk.clear (Disk.beside place .log)).clear (Disk.beside place .index)
  | some .doubtful | some .absent | none => u.disk

def leave (u : Use) (a : Address) (place : List String) (stored : Stored) (db : Database) : Disk :=
  if stored.table? = some db then u.close a place
  else
    let entry := Entry.database (some db) stored.isLogged
    let changed := if u.log.isSome then u.disk.put place entry else u.rewrite place entry
    { u with disk := changed }.close a place

/-- The visit of one who uses a database, and makes its table if it has none. -/
def visit (u : Use) (a : Address) (place : List String) : Visit :=
  match u.stored with
  | none => ⟨.error .noDatabase, fun _ => u.close a place⟩
  | some stored =>
    if stored.table?.isSome || u.canWrite a place then
      ⟨.ok ⟨stored.table?.getD .empty, u.canWrite a place, (u.withTable place stored).look⟩,
        fun left => left.elim (u.close a place) (u.leave a place stored)⟩
    else ⟨.error .noDatabase, fun _ => u.close a place⟩

end Use

namespace Disk

/-- Visits the database in a file. If nobody changes the file, nothing beside it counts. -/
def visit (d : Disk) (a : Address) (place : List String) : Visit :=
  if a.frozen then
    ⟨match (d.stored place).table? with
      | some db => .ok ⟨db, false, d.look⟩
      | none => .error .noDatabase, fun _ => d⟩
  else ((d.readDatabase a place).withLog a place).visit a place

/-- Visits the database that is told by a location. A file is made for a new one in a directory. -/
def connect (d : Disk) (location : Location) : Visit :=
  let d := d.prepare location
  let refused (e : CommandError) : Visit := ⟨.error e, fun _ => d⟩
  let unopened := refused (.unopenedDatabase location.path)
  match location.address? with
  | none => unopened
  | some a =>
    if a.temporary then ⟨Connection.opened a none d.look, fun _ => d⟩
    else
      match d.place? a.path, a.model.all d.holds with
      | none, _ | _, false => unopened
      | some place, true =>
        match d.at? place with
        | some .directory => unopened
        | some .device => refused .noDatabase
        | some _ => d.visit a place
        | none =>
          if a.access = .creating ∧ place.head? ≠ some "/" ∧
              d.at? (parent place) = some .directory then
            (d.put place (.text "")).visit a place
          else unopened

def after (d : Disk) (report : Report) : Disk :=
  report.visit.elim d fun (location, left) => (d.connect location).after left

def surroundings (d : Disk) (home : Option String) (second : Int) : Surroundings :=
  ⟨d.look, fun location => (d.connect location).result, .ofHome home, second⟩

end Disk

end RunTable.Command
