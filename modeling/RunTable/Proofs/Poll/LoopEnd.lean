import RunTable.Proofs.Poll.Halting
import RunTable.Proofs.Poll.LastEvent

/-! # How a loop ends when a resource is gone

Whoever asked for the poll that finds a resource gone, the call to a halt
reaches the loop that runs, and the loop ends. Its receiver is told why only if
the poll was one of the loop's own: the event goes from the poll to the channel
that the poll was given, and a poll that somebody else asked for has none. -/

namespace RunTable.Poll.Controller

variable {δ : Type} {c d : Controller δ}

/-! ## The call to a halt -/

/-- While polling is stopped, a loop goes on as it is or ends, and a call to a halt is not lost
before it ends. -/
theorem Frozen.loop_act (h : Frozen c d) {m : Move} (hm : m.isStart = false) :
    (d.act m).loop = none ∨ (d.act m).loop = d.loop ∧ (d.act m).halt = d.halt := by
  cases m with
  | poll | spawn =>
    refine .inr ⟨loop_beginPoll _ _, ?_⟩
    show (Controller.beginPoll _ _).halt = _
    rw [beginPoll_frame]
  | tick =>
    show d.tick.loop = none ∨ d.tick.loop = d.loop ∧ d.tick.halt = d.halt
    rcases tick_cases d with ⟨_, heq⟩ | ⟨_, _, heq⟩ | ⟨l, _, hgo, _, _⟩
    · rw [heq]
      exact .inr ⟨rfl, rfl⟩
    · rw [heq]
      exact .inl (loop_endLoop d)
    · rw [h.stopped] at hgo
      cases hgo
  | reply request =>
    right
    rw [Controller.act, h.reply_eq]
    exact ⟨rfl, rfl⟩
  | wake =>
    show d.wake.loop = none ∨ d.wake.loop = d.loop ∧ d.wake.halt = d.halt
    unfold wake
    rw [if_pos h.stopped]
    split
    · exact .inl (loop_endLoop _)
    · exact .inr ⟨rfl, rfl⟩
  | start => cases hm
  | stop => exact .inl (loop_endLoop d)
  | abort | setVisible | evict | pass => exact .inr ⟨rfl, rfl⟩

theorem Frozen.act (h : Frozen c d) {m : Move} (hm : m.isStart = false) : Frozen c (d.act m) := by
  have hrun := Tasks.frozen_run (t := .of d) h (Move.isStart_of_mem_turns hm)
  rwa [Tasks.run_turns_act] at hrun

theorem Frozen.run (h : Frozen c d) {later : List Move} (hlater : ∀ m ∈ later, m.isStart = false) :
    Frozen c (d.run later) :=
  run_induction h fun _ m hm hd => hd.act (hlater m hm)

theorem Frozen.loop_wake (h : Frozen c d) (hhalt : d.halt = true) : d.wake.loop = none := by
  unfold wake
  rw [if_pos h.stopped]
  split
  · exact loop_endLoop _
  · next hnot =>
    cases hloop : d.loop with
    | none => rfl
    | some l => simp [hloop, hhalt] at hnot

/-- A loop that is called to a halt has ended when it has heard the call. -/
theorem Frozen.loop_run (h : Frozen c d) {later : List Move}
    (hlater : ∀ m ∈ later, m.isStart = false)
    (hcall : d.loop = none ∨ d.halt = true ∧ Move.wake ∈ later) : (d.run later).loop = none := by
  induction later generalizing d with
  | nil =>
    rcases hcall with hnone | ⟨_, hwake⟩
    · exact hnone
    · cases hwake
  | cons m later ih =>
    obtain ⟨hm, hlater⟩ := List.forall_mem_cons.mp hlater
    refine ih (h.act hm) hlater ?_
    rcases hcall with hnone | ⟨hhalt, hwake⟩
    · rcases h.loop_act hm with hended | ⟨hloop, _⟩
      · exact .inl hended
      · exact .inl (hloop.trans hnone)
    · rcases List.mem_cons.mp hwake with rfl | hwake
      · exact .inl (h.loop_wake hhalt)
      · rcases h.loop_act hm with hended | ⟨_, hcalled⟩
        · exact .inl hended
        · exact .inr ⟨hcalled.trans hhalt, hwake⟩

/-! ## Polls that find a resource gone -/

/-- With the reply that a resource is gone, the last poll under way is over and polling stops. -/
structure Gone (c d : Controller δ) : Prop where
  running : c.stopped = false
  stopped : d.stopped = true
  halt : d.halt = true
  flights : d.flights = []
  loop : d.loop = c.loop

theorem handle_gone (c : Controller δ) {f : Flight δ} {resource : String}
    (h : outcomeOf f.fetches = .notFound resource) :
    (c.handle f).stopped = true ∧ (c.handle f).halt = true := by
  unfold handle
  rw [h]
  exact ⟨Bool.or_true _, Bool.or_true _⟩

/-- A move ends one poll at most. -/
theorem Orderly.history_act (h : c.Orderly) (m : Move) :
    (c.act m).history = c.history ∨
    (∃ origin outcome, (c.act m).history = c.history ++ [(origin, outcome)] ∧
      ∀ resource, outcome = .notFound resource → Gone c (c.act m)) := by
  cases hasks : c.asks m with
  | some origin =>
    rw [act_of_asks hasks]
    have hhistory : (c.prepared m).history = c.history := by rw [prepared_eq]
    rcases beginPoll_cases (c.prepared m) origin with
      ⟨_, _, heq⟩ | ⟨_, _, heq⟩ | ⟨_, f, _, _, _, heq⟩ <;> rw [heq, ← hhistory]
    · exact .inr ⟨_, _, rfl, fun _ hgone => nomatch hgone⟩
    · exact .inr ⟨_, _, rfl, fun _ hgone => nomatch hgone⟩
    · exact .inl rfl
  | none =>
    cases m with
    | poll | spawn => cases hasks
    | tick =>
      left
      show c.tick.history = _
      rcases tick_cases c with ⟨_, heq⟩ | ⟨_, _, heq⟩ | ⟨_, _, _, hsome, _⟩
      · rw [heq]
      · rw [heq, endLoop_frame]
      · rw [hsome] at hasks; cases hasks
    | reply request =>
      show (c.reply request).history = _ ∨ _
      rcases h.reply_cases request with heq | ⟨f, hone, ⟨_, heq⟩ | ⟨_, heq⟩⟩
      · exact .inl (congrArg history heq)
      · exact .inl (by rw [heq])
      · refine .inr ⟨f.origin, _, congrArg history heq, fun resource hgone => ?_⟩
        have hgone : outcomeOf (f.receive request).fetches = .notFound resource := hgone
        have hrunning : c.stopped = false := by
          cases hstopped : c.stopped with
          | false => rfl
          | true =>
            rw [h.idle hstopped] at hone
            cases hone
        obtain ⟨hstopped, hhalt⟩ := handle_gone { c with
          requests := (c.requests.finish request).1
          flights := [] } hgone
        show Gone c (c.reply request)
        rw [heq]
        exact ⟨hrunning, hstopped, hhalt, rfl, rfl⟩
    | wake =>
      left
      show c.wake.history = _
      rw [wake_frame]
    | start | stop =>
      left
      show c.endLoop.history = _
      rw [endLoop_frame]
    | abort | setVisible | evict | pass => exact .inl rfl

theorem Orderly.gone_act (h : c.Orderly) {m : Move} {resource : String}
    (hover : (c.act m).history = c.history ++ [(origin, .notFound resource)]) :
    Gone c (c.act m) := by
  rcases h.history_act m with hsame | ⟨_, _, hover', hgone⟩
  · rw [hsame] at hover
    exact absurd hover.symm (by simp)
  · rw [hover'] at hover
    obtain ⟨-, houtcome⟩ := Prod.mk.inj (List.singleton_inj.mp (List.append_cancel_left hover))
    exact hgone resource houtcome

theorem Gone.frozen (h : Gone c d) : Frozen d d := .refl h.stopped h.flights

/-! ## The last receiver -/

/-- While polling is not stopped, the receiver of the last loop is told of refreshes. -/
theorem isRefresh_received (setup : Setup δ) (visible : Bool) (moves : List Move)
    (h : ((initial setup visible).run moves).stopped = false) :
    ∀ e ∈ ((initial setup visible).run moves).received, e.isRefresh = true := by
  have hinitial := Tasks.delivers_initial setup visible
  have hdelivers := hinitial.run_moves moves
  have hhalts := Tasks.halts_run hinitial (.inl fun _ he => nomatch he) (moves.flatMap Move.turns)
  rw [Tasks.initial, Tasks.run_turns] at hhalts
  rw [show ((initial setup visible).run moves).received = _ from hdelivers.received_eq]
  exact hhalts.isRefresh h

/-- Without a loop and without polls, no channel is open. -/
theorem isClosed_of_idle (h : (Tasks.of c).Delivers) (hloop : c.loop = none)
    (hflights : c.flights = []) : c.isClosed = true := by
  unfold isClosed
  rw [List.getLast?_eq_getElem?]
  cases hch : c.channels[c.channels.length - 1]? with
  | none => rfl
  | some ch =>
    refine decide_eq_true ((h.senders_eq_zero hch).mpr ⟨?_, List.not_mem_nil, ?_⟩)
    · intro l hl
      have hnone : (Tasks.of c).loops = [] := by
        show c.loop.toList ++ [] = []
        rw [hloop]
        rfl
      rw [hnone] at hl
      cases hl
    · intro f hf
      rw [show (Tasks.of c).controller.flights = [] from hflights] at hf
      cases hf

/-- **Only its own polls tell a receiver that a resource is gone.** When a poll finds this while a
loop runs, the receiver of the loop, which was told of refreshes before, gets the event if the poll
is one of the loop's own, and nothing if not. That is the last it gets. In either case the loop ends
once it hears the call to a halt, and the channel is closed. -/
theorem gone_told_by_own_polls (setup : Setup δ) (visible : Bool) (moves : List Move) (m : Move) :
    let c := (initial setup visible).run moves
    let d := c.act m
    ∀ l origin resource, c.loop = some l →
      d.history = c.history ++ [(origin, .notFound resource)] →
      (∀ e ∈ c.received, e.isRefresh = true) ∧
      d.received = c.received ++
        (if origin = .tick l.number then [.notFound resource setup.redirect] else []) ∧
      ∀ later : List Move, (∀ m ∈ later, m.isStart = false) →
        (d.run later).received = d.received ∧
        (.wake ∈ later → (d.run later).loop = none ∧ (d.run later).isClosed = true) := by
  intro c d l origin resource hloop hover
  have horderly : c.Orderly := (orderly_initial setup visible).run moves
  have hdelivers : (Tasks.of c).Delivers :=
    (Tasks.delivers_initial setup visible).run_moves moves
  have hafter : (Tasks.of d).Delivers := hdelivers.run_moves [m]
  have hsetup : c.setup = setup := setup_run _ moves
  have hsetup' : d.setup = c.setup := setup_act c m
  have hgone : Gone c d := horderly.gone_act hover
  have hreceived : c.received = c.lastTold := hdelivers.received_eq
  have hreceived' : d.received = d.lastTold := hafter.received_eq
  -- the loop is the last before and after
  have hlatest : l.number + 1 = c.channels.length := hdelivers.number_eq hloop
  have hlatest' : l.number + 1 = d.channels.length := hafter.number_eq (hgone.loop.trans hloop)
  have hnumber : l.number = c.channels.length - 1 := by omega
  have hlength : d.channels.length = c.channels.length := by omega
  refine ⟨?_, ?_, fun later hlater => ?_⟩
  · exact isRefresh_received setup visible moves hgone.running
  · rw [hreceived, hreceived', lastTold, hlength, hsetup', hover, told_append, hsetup, ← hnumber]
    unfold lastTold
    rw [hsetup, ← hnumber]
    rfl
  · have hfrozen : Frozen d (d.run later) := hgone.frozen.run hlater
    refine ⟨?_, fun hwake => ?_⟩
    · have hturns : ∀ u ∈ later.flatMap Move.turns, u.isStart = false :=
        List.forall_mem_flatMap.mpr fun m hm => Move.isStart_of_mem_turns (hlater m hm)
      have hsame := Tasks.received_of_idle hafter hgone.stopped hgone.flights hturns
      rwa [Tasks.run_turns] at hsame
    · have hended := hgone.frozen.loop_run hlater (.inr ⟨hgone.halt, hwake⟩)
      exact ⟨hended, isClosed_of_idle (hafter.run_moves later) hended hfrozen.flights⟩

/-- The first poll of a loop finds its resource gone. -/
theorem gone_told_by_own_polls_tick :
    let setup : Setup Nat := ⟨["a"], fun _ _ => ⟨0, .error (.notFound "gone")⟩, "/models", true⟩
    let c := (initial setup true).run [.start 1000, .tick]
    let d := c.act (.reply 0)
    c.isRunning = true ∧ d.history = c.history ++ [(.tick 0, .notFound "a")] ∧
      d.received = [.notFound "a" "/models"] ∧ (d.run [.spawn, .wake, .pass 1000]).loop = none := by
  intro setup c d
  have hover : d.history = c.history ++ [(.tick 0, .notFound "a")] := by decide
  obtain ⟨_, hreceived, hlater⟩ :=
    gone_told_by_own_polls setup true [.start 1000, .tick] (.reply 0) ⟨0, 1000, 1000⟩ (.tick 0) "a"
      rfl hover
  exact ⟨rfl, hover, hreceived, ((hlater [.spawn, .wake, .pass 1000] (by decide)).2 (by decide)).1⟩

/-- While a loop runs, a poll that somebody waits for finds the resource gone. The loop ends, with
no stop and no second start, and its receiver is never told why. -/
theorem gone_untold :
    let setup : Setup Nat := ⟨["a"], fun _ count => ⟨0,
      if count = 2 then .error (.notFound "gone") else .ok count⟩, "/models", true⟩
    let c := (initial setup true).run [.start 1000, .tick, .reply 0, .wake, .pass 500, .poll]
    let d := c.run [.reply 1, .wake]
    c.isRunning = true ∧ d.history = c.history ++ [(.waiting, .notFound "a")] ∧
      d.isRunning = false ∧ d.received = [.refreshed 1 0] ∧ d.isClosed = true := by
  decide

end RunTable.Poll.Controller
