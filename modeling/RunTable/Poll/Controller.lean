import RunTable.KeyMap
import RunTable.Poll.Fetch
import RunTable.Poll.Requests

/-!
The polling controller, as the parties to it change it: those who ask for polls, the polls under
way, the loop, and whoever owns the controller. Each function here is what one of them does before
it waits for something. A poll fetches every resource of a fixed list at once, and its replies are
dealt with together when the last of them has come. No poll begins while a request is active, while
the host is hidden, or after a resource was found to be gone. That also calls the loop to a halt,
which otherwise polls at regular intervals. Each loop has a channel to a receiver of its own, and
tells it what came of its polls.
-/

namespace RunTable.Poll

/-- Why a poll did not take place. -/
inductive SkipReason where
  | hidden
  | inFlight
  | stopped
  deriving DecidableEq

/-- What came of a poll. -/
inductive Outcome where
  | skipped (reason : SkipReason)
  | completed (fetched failed : Nat)
  | notFound (resource : String)
  deriving DecidableEq

/-- What a loop tells its receiver. -/
inductive Event where
  | refreshed (fetched failed : Nat)
  | notFound (resource redirect : String)
  deriving DecidableEq

/-- Who asked for a poll: somebody who waits for it, somebody who does not, or a loop. -/
inductive Origin where
  | waiting
  | background (index : Nat)
  | tick (loop : Nat)
  deriving DecidableEq

/-- A fetch that has been issued: the number of its request, when its reply is due and whether it
is still awaited. -/
structure Fetch (δ : Type) where
  resource : String
  request : Nat
  due : Nat
  reply : Reply δ
  awaited : Bool

/-- A poll under way, with its fetches in the order of the resources. -/
structure Flight (δ : Type) where
  origin : Origin
  fetches : List (Fetch δ)

/-- A running loop: its number, its interval and the time of its next tick. -/
structure Loop where
  number : Nat
  interval : Nat
  nextTick : Nat

/-- The channel from a loop to its receiver: what was sent, and how many can still send. These are
the loop itself while it runs, and each of its polls until it is over. -/
structure Channel where
  events : List Event
  senders : Nat
  deriving DecidableEq

/-- What stays the same for a controller. -/
structure Setup (δ : Type) where
  resources : List String
  source : Source δ
  redirect : String
  alwaysVisible : Bool

/-- The state of a controller. -/
structure Controller (δ : Type) where
  setup : Setup δ
  now : Nat
  visible : Bool
  stopped : Bool
  /-- Whether the loop is called to a halt. A call that no loop has heard waits for the next. -/
  halt : Bool
  requests : Requests
  /-- How often each resource has been fetched. -/
  counts : KeyMap Nat
  cache : KeyMap δ
  /-- The polls under way. -/
  flights : List (Flight δ)
  loop : Option Loop
  /-- The channels of all loops so far; loops are numbered from zero in the order of their start. -/
  channels : List Channel
  /-- How many background polls have been asked for. -/
  spawned : Nat
  /-- The polls that are over, in order. -/
  history : List (Origin × Outcome)

namespace Fetch

variable {δ : Type}

def isDue (f : Fetch δ) (now : Nat) : Bool := f.awaited && decide (f.due ≤ now)

end Fetch

namespace Flight

variable {δ : Type}

/-- The requests whose replies are awaited. -/
def awaited (f : Flight δ) : List Nat := (f.fetches.filter (·.awaited)).map (·.request)

/-- Whether a reply is still to come. -/
def isActive (f : Flight δ) : Bool := f.fetches.any (·.awaited)

/-- Ends the wait for the reply to a request. -/
def receive (f : Flight δ) (request : Nat) : Flight δ :=
  { f with
    fetches := f.fetches.map fun g =>
      if g.request = request then { g with awaited := false } else g }

end Flight

namespace Channel

/-- A new channel, to which a loop can send. -/
def opened : Channel := ⟨[], 1⟩

/-- One more can send. -/
def share (ch : Channel) : Channel := { ch with senders := ch.senders + 1 }

/-- One of those who can send goes, perhaps after a last event. -/
def leave (ch : Channel) (last : Option Event) : Channel :=
  ⟨ch.events ++ last.toList, ch.senders - 1⟩

end Channel

namespace Controller

variable {δ : Type}

def initial (setup : Setup δ) (visible : Bool) : Controller δ where
  setup := setup
  now := 0
  visible := visible
  stopped := false
  halt := false
  requests := .empty
  counts := .empty
  cache := .empty
  flights := []
  loop := none
  channels := []
  spawned := 0
  history := []

def isVisible (c : Controller δ) : Bool := c.setup.alwaysVisible || c.visible

/-! ## Polls -/

def issueFetch (c : Controller δ) (resource : String) : Controller δ × Fetch δ :=
  let count := (c.counts.get? resource).getD 0 + 1
  let answer := c.setup.source resource count
  let (requests, number) := c.requests.start resource
  ({ c with requests := requests, counts := c.counts.insert resource count },
    ⟨resource, number, c.now + answer.delay, answer.reply, true⟩)

def issueFetches (c : Controller δ) : List String → Controller δ × List (Fetch δ)
  | [] => (c, [])
  | resource :: rest =>
    let (c, fetch) := c.issueFetch resource
    let (c, fetches) := c.issueFetches rest
    (c, fetch :: fetches)

/-- The cache after a reply: data are kept, and a missing resource is thrown out. -/
def store (cache : KeyMap δ) (fetch : Fetch δ) : KeyMap δ :=
  match fetch.reply with
  | .ok data => cache.insert fetch.resource data
  | .error (.notFound _) => cache.erase fetch.resource
  | .error (.transient _) => cache

/-- The outcome of fetches: the first resource that is gone, or else how many brought data and how
many did not. -/
def outcomeOf (fetches : List (Fetch δ)) : Outcome :=
  match fetches.find? fun f => f.reply matches .error (.notFound _) with
  | some f => .notFound f.resource
  | none =>
    .completed (fetches.countP fun f => f.reply matches .ok _)
      (fetches.countP fun f => f.reply matches .error (.transient _))

def eventOf? (redirect : String) : Outcome → Option Event
  | .completed fetched failed => some (.refreshed fetched failed)
  | .notFound resource => some (.notFound resource redirect)
  | .skipped _ => none

/-- Writes a poll down as over. A poll of a loop tells what came of it, and sends no more. -/
def conclude (c : Controller δ) (origin : Origin) (outcome : Outcome) : Controller δ :=
  { c with
    history := c.history ++ [(origin, outcome)]
    channels := match origin with
      | .tick loop => c.channels.modify loop (·.leave (eventOf? c.setup.redirect outcome))
      | .waiting | .background _ => c.channels }

/-- Deals with the replies of a poll. A missing resource stops polling and calls for a halt. -/
def handle (c : Controller δ) (flight : Flight δ) : Controller δ :=
  let outcome := outcomeOf flight.fetches
  let gone := outcome matches .notFound _
  { c with
    cache := flight.fetches.foldl store c.cache
    stopped := c.stopped || gone
    halt := c.halt || gone }.conclude flight.origin outcome

/-- Why a poll could not take place now. -/
def obstacle? (c : Controller δ) : Option SkipReason :=
  if c.stopped then some .stopped
  else if !c.isVisible then some .hidden
  else if c.requests.anyActive then some .inFlight
  else none

/-- Begins a poll, unless something stands in its way. A poll of no resources is over at once. -/
def beginPoll (c : Controller δ) (origin : Origin) : Controller δ :=
  match c.obstacle? with
  | some reason => c.conclude origin (.skipped reason)
  | none =>
    let (c, fetches) := c.issueFetches c.setup.resources
    let flight : Flight δ := ⟨origin, fetches⟩
    if flight.isActive then { c with flights := c.flights ++ [flight] } else c.handle flight

/-- Begins a poll in the background, under the next index. -/
def beginInBackground (c : Controller δ) : Controller δ :=
  { c with spawned := c.spawned + 1 }.beginPoll (.background c.spawned)

/-- Takes in the reply to a request, if it is due. The request is over then. -/
def receive (c : Controller δ) (request : Nat) : Controller δ :=
  if c.flights.any fun f => f.fetches.any fun g => g.request = request && g.isDue c.now then
    { c with
      requests := (c.requests.finish request).1
      flights := c.flights.map (·.receive request) }
  else c

/-- Deals with the poll at a place among those under way, if all of its replies have come. -/
def land (c : Controller δ) (place : Nat) : Controller δ :=
  match c.flights[place]? with
  | some flight =>
    if flight.isActive then c else { c with flights := c.flights.eraseIdx place }.handle flight
  | none => c

/-- Takes in a reply. If it is the last of its poll, this is dealt with in the same step. -/
def reply (c : Controller δ) (request : Nat) : Controller δ :=
  let c := c.receive request
  match c.flights.findIdx? fun f => !f.isActive with
  | some place => c.land place
  | none => c

/-- Gives up a background poll. Its requests are over, and nothing else comes of it. -/
def abort (c : Controller δ) (index : Nat) : Controller δ :=
  let givenUp := c.flights.filter fun f => f.origin = .background index
  { c with
    requests := c.requests.finishAll (givenUp.flatMap Flight.awaited)
    flights := c.flights.filter fun f => f.origin ≠ .background index }

/-! ## Loops -/

/-- Ends the loop. The polls under way go on. -/
def endLoop (c : Controller δ) : Controller δ :=
  match c.loop with
  | some l => { c with loop := none, channels := c.channels.modify l.number (·.leave none) }
  | none => c

/-- Opens a loop with a channel of its own, in place of the loop there was. Its first tick is due at
once. An interval is at least a millisecond. -/
def openLoop (c : Controller δ) (interval : Nat) : Controller δ :=
  let c := c.endLoop
  { c with
    stopped := false
    loop := some ⟨c.channels.length, max interval 1, c.now⟩
    channels := c.channels ++ [.opened] }

/-- The loop hears the call to a halt. It ends if polling is stopped, and goes on otherwise. -/
def wake (c : Controller δ) : Controller δ :=
  if c.loop.isSome && c.halt then
    if c.stopped then { c with halt := false }.endLoop else { c with halt := false }
  else c

/-- Sets the next tick of a loop, and lets a poll send to its receiver, too. -/
def prepareTick (c : Controller δ) (l : Loop) : Controller δ :=
  { c with
    loop := some { l with nextTick := c.now + l.interval }
    channels := c.channels.modify l.number Channel.share }

/-- The loop ticks, if it is time, and a poll begins. If polling is stopped the loop ends
instead. -/
def tick (c : Controller δ) : Controller δ :=
  match c.loop with
  | some l =>
    if c.now < l.nextTick then c
    else if c.stopped then c.endLoop
    else (c.prepareTick l).beginPoll (.tick l.number)
  | none => c

end Controller

/-! ## Moves -/

/-- A move of one of the parties, with what it leads to at once: a poll that is asked for begins, and
a loop that is told to stop ends. Between two moves anything else may happen, but nothing happens
within one: scheduling is cooperative. -/
inductive Move where
  | poll
  | spawn
  | tick
  | reply (request : Nat)
  | wake
  | abort (index : Nat)
  | setVisible (visible : Bool)
  | start (interval : Nat)
  | stop
  | evict (resource : String)
  | pass (ms : Nat)
  deriving DecidableEq

namespace Controller

variable {δ : Type}

def act (c : Controller δ) : Move → Controller δ
  | .poll => c.beginPoll .waiting
  | .spawn => c.beginInBackground
  | .tick => c.tick
  | .reply request => c.reply request
  | .wake => c.wake
  | .abort index => c.abort index
  | .setVisible visible => { c with visible := visible }
  | .start interval => c.openLoop interval
  | .stop => c.endLoop
  | .evict resource => { c with cache := c.cache.erase resource }
  | .pass ms => { c with now := c.now + ms }

def run (c : Controller δ) (moves : List Move) : Controller δ := moves.foldl act c

def isRunning (c : Controller δ) : Bool := c.loop.isSome

/-- What the receiver of the latest loop has got. -/
def received (c : Controller δ) : List Event := (c.channels.getLast?.map Channel.events).getD []

/-- Whether nothing can come to the receiver of the latest loop any more. -/
def isClosed (c : Controller δ) : Bool := c.channels.getLast?.all fun ch => ch.senders = 0

end Controller

end RunTable.Poll
