import RunTable.Poll.Clock

/-!
Sessions: steps taken one after the other with a controller, and what can be seen after each. While
a background poll is under way, loops are neither started nor stopped. The timers of a session do
not run for longer than thirty years, so that longer waits are over then.
-/

namespace RunTable.Poll

/-- The milliseconds of thirty years of 365 days. -/
def longestWait : Nat := 946080000000

/-- How long a timer runs that is set to so many milliseconds. -/
def timerMs (ms : Nat) : Nat := min ms longestWait

/-- A step with a controller. -/
inductive Step where
  | poll
  | spawn
  | abort (index : Nat)
  | advance (ms : Nat)
  | setVisible (visible : Bool)
  | start (interval : Nat)
  | stop
  | evict (resource : String)
  | resources
  deriving DecidableEq

/-- What a step answers. -/
inductive StepResult (δ : Type) where
  | nothing
  | outcome (o : Outcome)
  | index (n : Nat)
  | busy
  | evicted (data : Option δ)
  | resources (ids : List String)

/-- The receiver's end of the latest loop: there was none yet, more may come, or nothing can. -/
inductive Reception where
  | none
  | open
  | closed
  deriving DecidableEq

namespace Controller

variable {δ : Type}

def take (c : Controller δ) : Step → Controller δ
  | .poll => c.pollAndWait
  | .spawn => c.spawn
  | .abort index => c.act (.abort index)
  | .advance ms => c.advance ms
  | .setVisible visible => c.act (.setVisible visible)
  | .start interval => if c.busy then c else c.start interval
  | .stop => if c.busy then c else c.act .stop
  | .evict resource => c.act (.evict resource)
  | .resources => c

def endedSince (before after : Controller δ) : List (Origin × Outcome) :=
  after.history.drop before.history.length

/-- The outcome of the poll that was waited for between two states. -/
def awaitedOutcome? (before after : Controller δ) : Option Outcome :=
  (before.endedSince after).findSome? fun
    | (.waiting, o) => some o
    | _ => none

/-- The background polls that ended between two states. -/
def backgroundOutcomes (before after : Controller δ) : List (Nat × Outcome) :=
  (before.endedSince after).filterMap fun
    | (.background index, o) => some (index, o)
    | _ => none

/-- What the receiver of the latest loop got between two states. -/
def newEvents (before after : Controller δ) : List Event :=
  if before.channels.length = after.channels.length then
    after.received.drop before.received.length
  else after.received

/-- What a step answers, given the states before and after it. -/
def result (before after : Controller δ) : Step → StepResult δ
  | .poll => (before.awaitedOutcome? after).elim .nothing .outcome
  | .spawn => .index before.spawned
  | .start _ | .stop => if before.busy then .busy else .nothing
  | .evict resource => .evicted (before.cache.get? resource)
  | .resources => .resources before.setup.resources
  | .abort _ | .advance _ | .setVisible _ => .nothing

def channel (c : Controller δ) : Reception :=
  if c.channels.isEmpty then .none else if c.isClosed then .closed else .open

end Controller

end RunTable.Poll
