import RunTable.Command.Program
import RunTable.Storage.Codec
import Std.Time.DateTime.Timestamp

/-!
The program on a real disk: files and variables are read here, and all that is decided is decided
by the commands.
-/

namespace RunTable.Main

open Command

/-- What a path leads to on the disk. -/
def lookAt (path : String) : IO Found := do
  try return .text (← IO.FS.readFile path)
  catch
    | .noFileOrDirectory .. => return .missing
    | _ => return .unreadable

/-- What files of a list lead to; no other file is seen. -/
def lookAtAll (paths : List String) : IO (String → Found) := do
  let found ← paths.mapM fun path => do return (path, ← lookAt path)
  return fun path => (valueAt path found).getD .missing

def directoryOf (path : String) : String :=
  match (path.toList.reverse.dropWhile (· ≠ '/')).reverse with
  | [] => "."
  | s => String.ofList s

def isDirectory (path : String) : IO Bool := do
  try (← IO.FS.realPath path).isDir
  catch _ => return false

def connect (location : Location) (look : String → Found) :
    IO (Except CommandError Connection) := do
  let unopened := Except.error (.unopenedDatabase location.path)
  let some a := location.address? | return unopened
  if a.temporary then return Connection.opened a none look
  if let some path := a.model then
    if (← lookAt path) = .missing then return unopened
  match ← lookAt a.path with
  | .text s =>
    if s.utf8ByteSize ≤ 1 then return Connection.opened a none look
    else
      match Database.read? s with
      | some db => return Connection.opened a (some db) look
      | none => return .error .noDatabase
  | .unreadable => return unopened
  | .missing =>
    if a.access = .creating &&
        (location.directory.isSome || (← isDirectory (directoryOf a.path))) then
      return Connection.opened a none look
    else return unopened

def leaveDatabase (location : Location) (db : Database) : IO Unit := do
  let some a := location.address? | return
  if a.temporary || !a.writable then return
  if let some directory := location.directory then IO.FS.createDirAll directory
  IO.FS.writeFile a.path db.write

/-- Prints what the program ends with, and gives its exit code. -/
def finish (ending : Ending) : IO UInt32 := do
  IO.print ending.output
  if let some message := ending.message then IO.eprintln ("Error: " ++ message)
  else if ending.code ≠ 0 then IO.eprintln "usage: runboardctl [-o human|json] [--db PATH] COMMAND"
  return UInt32.ofNat ending.code

def runTable (environment : Environment) (format : OutputFormat) (named : Option String)
    (command : TableCommand) : IO UInt32 := do
  let location := Location.ofHome environment.home
  let look ← lookAtAll command.paths
  let connection ← connect (named.elim location .named) look
  let second := (← Std.Time.Timestamp.now).toSecondsSinceUnixEpoch.val
  let report := command.run ⟨look, fun _ => connection, location, second⟩ format named
  if let some (location, some db) := report.visit then leaveDatabase location db
  finish (.ofReport report)

def printLines (ls : List String) : IO Unit := do
  ls.forM IO.println
  (← IO.getStdout).flush

partial def watch (environment : Environment) (format : OutputFormat) (w : WatchCommand)
    (c : Poll.Controller Json.Cell) : IO UInt32 := do
  if c.isClosed then return 0
  IO.sleep (UInt32.ofNat (min (w.intervalMs environment.settings) 4294967295))
  let next := w.ticked environment.settings (← lookAtAll w.paths) c
  printLines (newLines format c next)
  watch environment format w next

/-- Starts a loop and ticks until it has ended. -/
def runWatch (environment : Environment) (format : OutputFormat) (w : WatchCommand) :
    IO UInt32 := do
  let look ← lookAtAll w.paths
  let c := w.started environment.settings look
  printLines (newLines format (w.idle environment.settings look) c)
  watch environment format w c

end RunTable.Main

open RunTable RunTable.Command in
def main (words : List String) : IO UInt32 := do
  let found ← environmentVariables.mapM fun name => do return (name, ← IO.getEnv name)
  let environment := Environment.ofVariables fun name => (valueAt name found).join
  match Invocation.read environment.database words with
  | .error refusal => RunTable.Main.finish (.ofRefusal refusal)
  | .ok ⟨format, named, .table command⟩ => RunTable.Main.runTable environment format named command
  | .ok ⟨format, _, .watch w⟩ => RunTable.Main.runWatch environment format w
