import RunTable.Poll.Turns
import RunTable.Proofs.Poll.Sessions

/-! # What a turn can do

Of all turns, those of loops concern the loops, their channels and the call to
a halt alone, whether a loop runs or was told to stop. A poll is begun by the
task that asks for it, or by a task of its own (`Tasks.asks`). With the other
turns a reply comes, a poll is dealt with or given up, or somebody else acts on
the controller (`Tasks.take_effect`).

A move is a run of turns (`Tasks.run_turns`), so that what holds of all runs of
turns holds of all runs of moves, and of all sessions. -/

namespace RunTable.Poll

variable {δ : Type}

namespace Turn

/-- Whether a turn is taken as time passes, with nobody asking for it. -/
def passes : Turn → Bool
  | .begin _ | .tick _ | .wake _ | .heed _ | .reply _ | .receive _ | .land _ | .pass _ => true
  | _ => false

def isStart : Turn → Bool
  | .start _ => true
  | _ => false

/-- Whether a loop that was told to stop ticks. -/
def isLate : Turn → Bool
  | .tick (.dismissed _) => true
  | _ => false

/-- Whether a task that takes in the last reply of a poll also deals with the poll. -/
def isWhole : Turn → Bool
  | .receive _ | .land _ => false
  | _ => true

end Turn

namespace Tasks

variable {t : Tasks δ} {u : Turn}

/-- Who asked for the poll that comes to its guard with a turn, if any does. -/
def asks (t : Tasks δ) : Turn → Option Origin
  | .poll => some .waiting
  | .begin place => t.asked[place]?
  | _ => none

theorem asked_setLoop (t : Tasks δ) (s : Standing) (l : Option Loop) :
    (t.setLoop s l).asked = t.asked := by
  cases s with
  | running => rfl
  | dismissed place => cases l <;> rfl

theorem asked_endLoop (t : Tasks δ) (s : Standing) : (t.endLoop s).asked = t.asked := by
  unfold endLoop
  split
  · exact asked_setLoop t s none
  · rfl

theorem asked_wake (t : Tasks δ) (s : Standing) : (t.wake s).asked = t.asked := by
  unfold wake
  split
  · dsimp only
    split
    · exact asked_endLoop { t with controller := _ } s
    · rfl
  · rfl

/-- What the turn of a loop does to a controller: nothing that concerns a poll. If a loop runs, it
is the one that ran before. -/
structure LoopTurn (c d : Controller δ) : Prop where
  eq : d = { c with halt := d.halt, loop := d.loop, channels := d.channels }
  length : d.channels.length = c.channels.length
  number : ∀ k, d.loop.map Loop.number = some k → c.loop.map Loop.number = some k

theorem LoopTurn.refl (c : Controller δ) : LoopTurn c c := ⟨rfl, rfl, fun _ => id⟩

theorem LoopTurn.trans {c d e : Controller δ} (h : LoopTurn c d) (h' : LoopTurn d e) :
    LoopTurn c e := by
  refine ⟨?_, h'.length.trans h.length, fun k hk => h.number k (h'.number k hk)⟩
  rw [h'.eq, h.eq]

theorem loopTurn_setLoop {s : Standing} {l : Option Loop}
    (h : ∀ k, l.map Loop.number = some k → (t.loopAt? s).map Loop.number = some k) :
    LoopTurn t.controller (t.setLoop s l).controller := by
  cases s with
  | running => exact ⟨rfl, rfl, h⟩
  | dismissed place => cases l <;> exact .refl _

theorem loopTurn_modifyChannel (t : Tasks δ) (loop : Nat) (f : Channel → Channel) :
    LoopTurn t.controller (t.modifyChannel loop f).controller :=
  ⟨rfl, List.length_modify .., fun _ => id⟩

theorem loopTurn_endLoop (t : Tasks δ) (s : Standing) :
    LoopTurn t.controller (t.endLoop s).controller := by
  unfold endLoop
  split
  · exact (loopTurn_setLoop (l := none) fun _ hk => nomatch hk).trans (loopTurn_modifyChannel ..)
  · exact .refl _

theorem loopTurn_tick (t : Tasks δ) (s : Standing) :
    LoopTurn t.controller (t.tick s).controller := by
  unfold tick
  split
  · next l hl =>
    split
    · exact .refl _
    · split
      · exact loopTurn_endLoop t s
      · refine (loopTurn_setLoop fun k hk => ?_).trans (loopTurn_modifyChannel ..)
        rw [hl]
        exact hk
  · exact .refl _

theorem loopTurn_wake (t : Tasks δ) (s : Standing) :
    LoopTurn t.controller (t.wake s).controller := by
  unfold wake
  split
  · have hheard : LoopTurn t.controller { t.controller with halt := false } :=
      ⟨rfl, rfl, fun _ => id⟩
    dsimp only
    split
    · exact hheard.trans (loopTurn_endLoop { t with controller := _ } s)
    · exact hheard
  · exact .refl _

theorem loopTurn_stop (t : Tasks δ) : LoopTurn t.controller t.stop.controller :=
  ⟨rfl, rfl, fun _ hk => nomatch hk⟩

/-! ## All turns -/

/-- What a turn can do to a controller. -/
inductive Effect (t : Tasks δ) : Turn → Controller δ → Prop where
  | begins {u : Turn} {origin : Origin} (h : t.asks u = some origin) :
    Effect t u (t.controller.beginPoll origin)
  | replies (n : Nat) : Effect t (.reply n) (t.controller.reply n)
  | receives (n : Nat) : Effect t (.receive n) (t.controller.receive n)
  | lands (place : Nat) : Effect t (.land place) (t.controller.land place)
  | aborts (index : Nat) : Effect t (.abort index) (t.controller.abort index)
  | evicts (resource : String) :
    Effect t (.evict resource) { t.controller with cache := t.controller.cache.erase resource }
  | starts {interval : Nat} {d : Controller δ} {l : Loop} (h : LoopTurn t.controller d)
    (hl : l.number = d.channels.length) :
    Effect t (.start interval)
      { d with stopped := false, loop := some l, channels := d.channels ++ [.opened] }
  | loops {u : Turn} {d : Controller δ} (hu : u.isStart = false) (h : LoopTurn t.controller d) :
    Effect t u d
  | host {u : Turn} (hu : u.isStart = false) (visible : Bool) (now spawned : Nat) :
    Effect t u { t.controller with visible := visible, now := now, spawned := spawned }

theorem take_effect (t : Tasks δ) (u : Turn) : Effect t u (t.take u).controller := by
  cases u with
  | poll => exact .begins rfl
  | begin place =>
    show Effect t _ (t.begin place).controller
    unfold begin
    split
    · next origin horigin => exact .begins (u := .begin place) horigin
    · exact .loops rfl (.refl _)
  | tick s => exact .loops rfl (loopTurn_tick t s)
  | wake s => exact .loops rfl (loopTurn_wake t s)
  | heed place => exact .loops rfl (loopTurn_endLoop t _)
  | stop => exact .loops rfl (loopTurn_stop t)
  | start interval =>
    exact .starts (l := ⟨t.controller.channels.length, max interval 1, t.controller.now⟩)
      (loopTurn_stop t) rfl
  | reply n => exact .replies n
  | receive n => exact .receives n
  | land place => exact .lands place
  | abort index => exact .aborts index
  | evict resource => exact .evicts resource
  | spawn => exact .host rfl t.controller.visible t.controller.now _
  | setVisible visible => exact .host rfl visible t.controller.now t.controller.spawned
  | pass ms => exact .host rfl t.controller.visible _ t.controller.spawned

variable {d : Controller δ}

theorem isStart_of_asks {origin : Origin} (h : t.asks u = some origin) : u.isStart = false := by
  cases u with
  | start => cases h
  | poll | spawn | begin | tick | wake | heed | reply | receive | land | abort | setVisible | stop
  | evict | pass => rfl

theorem Effect.setup (h : Effect t u d) : d.setup = t.controller.setup := by
  cases h with
  | begins => exact Controller.setup_beginPoll _ _
  | replies n => exact Controller.setup_reply _ n
  | receives n => rw [Controller.receive_frame]
  | lands place => rw [Controller.land_frame]
  | starts h =>
    show Controller.setup _ = _
    rw [h.eq]
  | loops _ h => rw [h.eq]
  | aborts | evicts | host => rfl

theorem setup_take (t : Tasks δ) (u : Turn) : (t.take u).controller.setup = t.controller.setup :=
  (take_effect t u).setup

/-! ## Runs -/

theorem run_append (t : Tasks δ) (first second : List Turn) :
    t.run (first ++ second) = (t.run first).run second := List.foldl_append

/-- What each of some turns preserves, a run of them preserves. -/
theorem run_induction {P : Tasks δ → Prop} {turns : List Turn} (h : P t)
    (step : ∀ d, ∀ u ∈ turns, P d → P (d.take u)) : P (t.run turns) := by
  induction turns generalizing t with
  | nil => exact h
  | cons u turns ih =>
    have hu : P (t.take u) := step t u List.mem_cons_self h
    exact ih hu fun d u hu => step d u (List.mem_cons_of_mem _ hu)

theorem setup_run (t : Tasks δ) (turns : List Turn) :
    (t.run turns).controller.setup = t.controller.setup :=
  run_induction (P := fun d => d.controller.setup = t.controller.setup) rfl
    fun d u _ hd => (setup_take d u).trans hd

/-! ## Moves are runs of turns -/

theorem loopAt?_running (c : Controller δ) : (of c).loopAt? .running = c.loop := rfl

theorem endLoop_running (c : Controller δ) : (of c).endLoop .running = of c.endLoop := by
  unfold endLoop Controller.endLoop
  rw [loopAt?_running]
  cases c.loop <;> rfl

theorem stop_of_idle (h : t.controller.loop = none) : t.stop = t := by
  unfold stop
  rw [h, Option.toList_none, List.append_nil, ← h]

theorem stop_heed (c : Controller δ) : (of c).stop.endLoop (.dismissed 0) = of c.endLoop := by
  unfold Controller.endLoop
  cases h : c.loop with
  | none =>
    rw [stop_of_idle (t := of c) h]
    rfl
  | some l =>
    have hstop : (of c).stop = ⟨{ c with loop := none }, [l], []⟩ := by simp [stop, of, h]
    rw [hstop]
    rfl

theorem run_turns_act (c : Controller δ) (m : Move) : (of c).run m.turns = of (c.act m) := by
  cases m with
  | poll | spawn | reply | abort | setVisible | evict | pass => rfl
  | stop => exact stop_heed c
  | start interval =>
    show ((of c).stop.endLoop (.dismissed 0)).start interval = _
    rw [stop_heed, start, stop_of_idle (t := of c.endLoop) (Controller.loop_endLoop c)]
    show of (c.endLoop.openLoop interval) = of (c.openLoop interval)
    have htwice : c.endLoop.endLoop = c.endLoop := by
      rw [Controller.endLoop, Controller.loop_endLoop]
    unfold Controller.openLoop
    rw [htwice]
  | tick =>
    show ((of c).tick .running).begin 0 = of c.tick
    unfold tick Controller.tick
    rw [loopAt?_running]
    cases c.loop with
    | none => rfl
    | some l =>
      dsimp only
      show begin (if c.now < l.nextTick then _ else if c.stopped then _ else _) 0 = _
      split
      · rfl
      · split
        · rw [endLoop_running]
          rfl
        · rfl
  | wake =>
    show (of c).wake .running = of c.wake
    unfold wake Controller.wake
    show (if c.loop.isSome && c.halt then if c.stopped then _ else _ else _) = _
    split
    · split
      · exact endLoop_running { c with halt := false }
      · rfl
    · rfl

/-- A run of moves is a run of turns. -/
theorem run_turns (c : Controller δ) (moves : List Move) :
    (of c).run (moves.flatMap Move.turns) = of (c.run moves) := by
  induction moves generalizing c with
  | nil => rfl
  | cons m moves ih =>
    show (of c).run (m.turns ++ moves.flatMap Move.turns) = of ((c.act m).run moves)
    rw [run_append, run_turns_act, ih]

end Tasks

/-! ## The turns of a move -/

theorem Move.isWhole_of_mem_turns (m : Move) : ∀ u ∈ m.turns, u.isWhole = true := by
  cases m <;> simp [turns, Turn.isWhole]

theorem Move.isStart_of_mem_turns {m : Move} (h : m.isStart = false) :
    ∀ u ∈ m.turns, u.isStart = false := by
  cases m with
  | start => cases h
  | poll | spawn | tick | reply | wake | abort | setVisible | stop | evict | pass =>
    simp [turns, Turn.isStart]

end RunTable.Poll
