import RunTable.Command.Invocation
import RunTable.Command.Surroundings
import RunTable.Json.Cell
import RunTable.Poll.Session

/-!
Watching resources that are files, one for each, in a directory: a polling loop whose ticks read
them all at once, and what it prints. A missing file ends the loop.
-/

namespace RunTable.Command

open Poll

def replyOf (path : String) : Found → Reply Json.Cell
  | .missing => .error (.notFound path)
  | .unreadable => .error (.transient path)
  | .text s =>
    match (Json.Document.read? s).bind (Json.Cell.ofDocument? Json.nestingLimit) with
    | some c => .ok c
    | none => .error (.transient path)

/-- The line that tells an event; people are told only of the end. -/
def eventLine? : OutputFormat → Event → Option String
  | .human, .refreshed .. => none
  | .human, .notFound resource redirect =>
    some (resource ++ " not found; redirect to " ++ redirect)
  | .json, .refreshed fetched failed =>
    some (Json.Document.write (.record [
      ("event", .text "refreshed"),
      ("failed", .number (.ofInt failed)),
      ("fetched", .number (.ofInt fetched))]))
  | .json, .notFound resource redirect =>
    some (Json.Document.write (.record [
      ("event", .text "not_found"),
      ("redirect_to", .text redirect),
      ("resource", .text resource)]))

/-- The lines printed between two states of a loop. -/
def newLines (format : OutputFormat) (before after : Controller Json.Cell) : List String :=
  (before.newEvents after).filterMap (eventLine? format)

namespace WatchCommand

/-- The path of the file of a resource. -/
def pathOf (w : WatchCommand) (resource : String) : String :=
  if resource.startsWith "/" then resource ++ ".json"
  else Location.below w.directory (resource ++ ".json")

def paths (w : WatchCommand) : List String := w.resources.map w.pathOf

/-- The source of the files as they are found; it answers at once. -/
def source (w : WatchCommand) (look : String → Found) : Source Json.Cell :=
  fun resource _ => ⟨0, replyOf (w.pathOf resource) (look (w.pathOf resource))⟩

/-- The interval: the one that is asked for, unless it is zero, or that of the settings. -/
def intervalMs (w : WatchCommand) (settings : Settings) : Nat :=
  (w.interval.filter (0 < ·)).getD settings.intervalMs

def idle (w : WatchCommand) (settings : Settings) (look : String → Found) :
    Controller Json.Cell :=
  .initial ⟨w.resources, w.source look, settings.redirect, true⟩ true

def started (w : WatchCommand) (settings : Settings) (look : String → Found) :
    Controller Json.Cell :=
  (w.idle settings look).start (w.intervalMs settings)

/-- The loop after the next tick, with the files as they are found then. -/
def ticked (w : WatchCommand) (settings : Settings) (look : String → Found)
    (c : Controller Json.Cell) : Controller Json.Cell :=
  { c with setup := { c.setup with source := w.source look } }.advance (w.intervalMs settings)

/-- The lines of at most so many further ticks. What is found may change with each line that is
printed. -/
def tickLines (w : WatchCommand) (settings : Settings) (format : OutputFormat)
    (look : Nat → String → Found) (printed : Nat) (c : Controller Json.Cell) : Nat → List String
  | 0 => []
  | ticks + 1 =>
    if c.isClosed then []
    else
      let next := w.ticked settings (look printed) c
      let ls := newLines format c next
      ls ++ w.tickLines settings format look (printed + ls.length) next ticks

/-- The lines from the start through at most so many further ticks. -/
def lines (w : WatchCommand) (settings : Settings) (format : OutputFormat)
    (look : Nat → String → Found) (ticks : Nat) : List String :=
  let c := w.started settings (look 0)
  let ls := newLines format (w.idle settings (look 0)) c
  ls ++ w.tickLines settings format look ls.length c ticks

end WatchCommand

end RunTable.Command
