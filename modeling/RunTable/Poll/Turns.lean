import RunTable.Poll.Controller

/-!
The turns of the tasks behind the moves. A task keeps its turn until it waits for something. Some
moves are turns of more than one task: a poll that is asked for by somebody who does not wait has a
task of its own, which begins it later, and a loop is told to stop by its owner, but hears so in a
turn of its own. Here anything may happen in between. A loop that was told to stop may then tick
once more, and its channel is open until it has ended.
-/

namespace RunTable.Poll

/-- Which of the loops that have not ended: the one that runs, or the one at a place among those
that were told to stop. -/
inductive Standing where
  | running
  | dismissed (place : Nat)
  deriving DecidableEq

/-- A controller, and what its tasks have not come to yet. -/
structure Tasks (δ : Type) where
  controller : Controller δ
  /-- The loops that were told to stop and have not heard it. -/
  dismissed : List Loop
  /-- Who asked for the polls whose tasks have not begun them. -/
  asked : List Origin

/-- A turn of a task. The turn with the last reply of a poll can also be taken in two halves: the
reply comes, and later the poll is dealt with. -/
inductive Turn where
  | poll
  | spawn
  | begin (place : Nat)
  | tick (loop : Standing)
  | wake (loop : Standing)
  | heed (place : Nat)
  | reply (request : Nat)
  | receive (request : Nat)
  | land (place : Nat)
  | abort (index : Nat)
  | setVisible (visible : Bool)
  | start (interval : Nat)
  | stop
  | evict (resource : String)
  | pass (ms : Nat)
  deriving DecidableEq

namespace Tasks

variable {δ : Type}

/-- A controller whose tasks have come to everything. -/
def of (c : Controller δ) : Tasks δ := ⟨c, [], []⟩

def initial (setup : Setup δ) (visible : Bool) : Tasks δ := .of (.initial setup visible)

/-- The loops that have not ended. -/
def loops (t : Tasks δ) : List Loop := t.controller.loop.toList ++ t.dismissed

def loopAt? (t : Tasks δ) : Standing → Option Loop
  | .running => t.controller.loop
  | .dismissed place => t.dismissed[place]?

/-- Puts a loop in its place as it is now, or takes it away. -/
def setLoop (t : Tasks δ) : Standing → Option Loop → Tasks δ
  | .running, l => { t with controller := { t.controller with loop := l } }
  | .dismissed place, some l => { t with dismissed := t.dismissed.set place l }
  | .dismissed place, none => { t with dismissed := t.dismissed.eraseIdx place }

/-- Changes the channel of a loop. -/
def modifyChannel (t : Tasks δ) (loop : Nat) (f : Channel → Channel) : Tasks δ :=
  { t with controller := { t.controller with channels := t.controller.channels.modify loop f } }

/-- A loop ends, and sends no more. -/
def endLoop (t : Tasks δ) (s : Standing) : Tasks δ :=
  match t.loopAt? s with
  | some l => (t.setLoop s none).modifyChannel l.number (·.leave none)
  | none => t

/-- A loop ticks, if it is time, and a poll is asked for that can send to its receiver, too. If
polling is stopped the loop ends instead. -/
def tick (t : Tasks δ) (s : Standing) : Tasks δ :=
  match t.loopAt? s with
  | some l =>
    if t.controller.now < l.nextTick then t
    else if t.controller.stopped then t.endLoop s
    else
      let t := t.setLoop s (some { l with nextTick := t.controller.now + l.interval })
      { t.modifyChannel l.number Channel.share with asked := t.asked ++ [.tick l.number] }
  | none => t

/-- A loop hears the call to a halt. It ends if polling is stopped, and goes on otherwise. -/
def wake (t : Tasks δ) (s : Standing) : Tasks δ :=
  if (t.loopAt? s).isSome && t.controller.halt then
    let t := { t with controller := { t.controller with halt := false } }
    if t.controller.stopped then t.endLoop s else t
  else t

/-- Tells the loop that runs to stop. -/
def stop (t : Tasks δ) : Tasks δ :=
  { t with
    controller := { t.controller with loop := none }
    dismissed := t.dismissed ++ t.controller.loop.toList }

/-- Tells the loop that runs to stop, and opens another. -/
def start (t : Tasks δ) (interval : Nat) : Tasks δ :=
  let t := t.stop
  { t with controller := t.controller.openLoop interval }

/-- Asks for a poll in the background, under the next index. -/
def spawn (t : Tasks δ) : Tasks δ :=
  { t with
    controller := { t.controller with spawned := t.controller.spawned + 1 }
    asked := t.asked ++ [.background t.controller.spawned] }

/-- The task of a poll that was asked for has its first turn. -/
def begin (t : Tasks δ) (place : Nat) : Tasks δ :=
  match t.asked[place]? with
  | some origin =>
    { t with controller := t.controller.beginPoll origin, asked := t.asked.eraseIdx place }
  | none => t

/-- Gives up a background poll, whether it was begun or not. -/
def abort (t : Tasks δ) (index : Nat) : Tasks δ :=
  { t with
    controller := t.controller.abort index
    asked := t.asked.filter fun origin => origin ≠ .background index }

def take (t : Tasks δ) : Turn → Tasks δ
  | .poll => { t with controller := t.controller.beginPoll .waiting }
  | .spawn => t.spawn
  | .begin place => t.begin place
  | .tick loop => t.tick loop
  | .wake loop => t.wake loop
  | .heed place => t.endLoop (.dismissed place)
  | .reply request => { t with controller := t.controller.reply request }
  | .receive request => { t with controller := t.controller.receive request }
  | .land place => { t with controller := t.controller.land place }
  | .abort index => t.abort index
  | .setVisible visible => { t with controller := t.controller.act (.setVisible visible) }
  | .start interval => t.start interval
  | .stop => t.stop
  | .evict resource => { t with controller := t.controller.act (.evict resource) }
  | .pass ms => { t with controller := t.controller.act (.pass ms) }

def run (t : Tasks δ) (turns : List Turn) : Tasks δ := turns.foldl take t

end Tasks

/-- The turns of a move. The poll that is asked for begins at once, and so a loop that is told to
stop hears it. -/
def Move.turns : Move → List Turn
  | .poll => [.poll]
  | .spawn => [.spawn, .begin 0]
  | .tick => [.tick .running, .begin 0]
  | .reply request => [.reply request]
  | .wake => [.wake .running]
  | .abort index => [.abort index]
  | .setVisible visible => [.setVisible visible]
  | .start interval => [.stop, .heed 0, .start interval]
  | .stop => [.stop, .heed 0]
  | .evict resource => [.evict resource]
  | .pass ms => [.pass ms]

end RunTable.Poll
