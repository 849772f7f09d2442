import RunTable.Poll.Controller

/-!
Moves in time. Time is counted in milliseconds and moves only when somebody waits; then everything
that falls due on the way happens in order, when it is due: first the replies, then a tick.
-/

namespace RunTable.Poll

/-- The time that a move takes. -/
def Move.duration : Move → Nat
  | .pass ms => ms
  | _ => 0

namespace Controller

variable {δ : Type}

/-! ## What moves do to the time -/

theorem now_issueFetches (c : Controller δ) (resources : List String) :
    (c.issueFetches resources).1.now = c.now := by
  induction resources generalizing c with
  | nil => rfl
  | cons r rest ih => exact ih _

@[simp] theorem now_beginPoll (c : Controller δ) (origin : Origin) :
    (c.beginPoll origin).now = c.now := by
  unfold beginPoll
  split
  · rfl
  · dsimp only
    split <;> exact now_issueFetches c _

@[simp] theorem now_receive (c : Controller δ) (request : Nat) :
    (c.receive request).now = c.now := by
  unfold receive
  split <;> rfl

@[simp] theorem now_land (c : Controller δ) (place : Nat) : (c.land place).now = c.now := by
  unfold land
  split
  · split <;> rfl
  · rfl

@[simp] theorem now_reply (c : Controller δ) (request : Nat) : (c.reply request).now = c.now := by
  unfold reply
  dsimp only
  split <;> simp

@[simp] theorem now_endLoop (c : Controller δ) : c.endLoop.now = c.now := by
  unfold endLoop
  split <;> rfl

@[simp] theorem now_wake (c : Controller δ) : c.wake.now = c.now := by
  unfold wake
  split
  · split <;> simp
  · rfl

@[simp] theorem now_tick (c : Controller δ) : c.tick.now = c.now := by
  unfold tick
  split
  · split
    · rfl
    · split
      · exact now_endLoop c
      · exact now_beginPoll _ _
  · rfl

theorem now_act (c : Controller δ) (m : Move) : (c.act m).now = c.now + m.duration := by
  cases m with
  | poll | spawn => exact now_beginPoll _ _
  | tick => exact now_tick c
  | reply request => exact now_reply c request
  | wake => exact now_wake c
  | start | stop => exact now_endLoop c
  | abort | setVisible | evict | pass => rfl

theorem now_run (c : Controller δ) {moves : List Move} (h : ∀ m ∈ moves, m.duration = 0) :
    (c.run moves).now = c.now := by
  induction moves generalizing c with
  | nil => rfl
  | cons m moves ih =>
    obtain ⟨hm, h⟩ := List.forall_mem_cons.mp h
    show ((c.act m).run moves).now = c.now
    rw [ih _ h, now_act, hm, Nat.add_zero]

/-! ## The order of events -/

/-- The requests whose replies are due. -/
def dueRequests (c : Controller δ) : List Nat :=
  c.flights.flatMap fun f => (f.fetches.filter (·.isDue c.now)).map (·.request)

/-- Takes in the replies that are due; then the loop hears what they led to. -/
def arrive (c : Controller δ) : Controller δ := c.run (c.dueRequests.map .reply ++ [.wake])

@[simp] theorem now_arrive (c : Controller δ) : c.arrive.now = c.now := by
  refine now_run c fun m hm => ?_
  rcases List.mem_append.mp hm with hm | hm
  · obtain ⟨_, _, rfl⟩ := List.mem_map.mp hm
    rfl
  · rw [List.mem_singleton.mp hm]
    rfl

/-- What is due at this moment: first replies, then a tick, and replies to it that take no time. -/
def settle (c : Controller δ) : Controller δ := c.arrive.tick.arrive

@[simp] theorem now_settle (c : Controller δ) : c.settle.now = c.now := by simp [settle]

/-- The times of the replies that are awaited and of the next tick. -/
def dueTimes (c : Controller δ) : List Nat :=
  (c.flights.flatMap fun f => (f.fetches.filter (·.awaited)).map (·.due)) ++
    (c.loop.map (·.nextTick)).toList

/-- The first time after now, and up to a limit, at which something is due. -/
def nextDue? (c : Controller δ) (limit : Nat) : Option Nat :=
  ((c.dueTimes).filter fun t => c.now < t && t ≤ limit).min?

theorem nextDue?_bounds {c : Controller δ} {limit t : Nat} (h : c.nextDue? limit = some t) :
    c.now < t ∧ t ≤ limit := by
  have hm := List.min?_mem h
  simpa using (List.mem_filter.1 hm).2

/-- Waits until a time; what falls due on the way happens when it is due. -/
def waitUntil (c : Controller δ) (time : Nat) : Controller δ :=
  match _h : c.nextDue? time with
  | some t => waitUntil (c.act (.pass (t - c.now))).settle time
  | none => c.act (.pass (time - c.now))
termination_by time - c.now
decreasing_by
  have := nextDue?_bounds _h
  simp only [now_settle, now_act, Move.duration]
  omega

def advance (c : Controller δ) (ms : Nat) : Controller δ := c.waitUntil (c.now + ms)

/-! ## What is asked of a controller -/

/-- When the last reply of a poll is due. -/
def landing (c : Controller δ) (flight : Flight δ) : Nat :=
  (flight.fetches.map (·.due)).foldl max c.now

def pollAndWait (c : Controller δ) : Controller δ :=
  let begun := (c.act .poll).arrive
  match begun.flights.find? fun f => f.origin = .waiting with
  | some flight => begun.waitUntil (begun.landing flight)
  | none => begun

def spawn (c : Controller δ) : Controller δ := (c.act .spawn).arrive

/-- Starts a loop with a new receiver in place of the one there was. It ticks at once, and then
at every multiple of its interval, which is at least a millisecond. -/
def start (c : Controller δ) (interval : Nat) : Controller δ := (c.act (.start interval)).settle

/-- Whether a background poll is under way. -/
def busy (c : Controller δ) : Bool := c.flights.any fun f => f.origin matches .background _

end Controller

end RunTable.Poll
