import RunTable.Proofs.Poll.Turns
import RunTable.Proofs.Poll.OnePoll
import RunTable.Proofs.Poll.Order

/-! # Polling that is stopped stays stopped

A missing resource stops polling while its poll is the only one, so that no
request is active then. Nobody but a new start undoes this: until then every
poll that is asked for is turned away at the guard, and there is no poll left
whose replies could still come.

Without a loop that runs, the passing of time takes replies in but issues
nothing. This takes no notice of what was begun before: a poll that was asked
for may still have to begin, and a loop that was told to stop may tick once
more before it hears it. -/

namespace RunTable.Poll

variable {δ : Type}

namespace Controller

variable {c d : Controller δ}

/-- Polling is stopped with no poll under way, and since a state nothing was fetched. -/
structure Frozen (c d : Controller δ) : Prop where
  stopped : d.stopped = true
  flights : d.flights = []
  requests : d.requests = c.requests
  counts : d.counts = c.counts
  cache : ∀ r v, d.cache.get? r = some v → c.cache.get? r = some v

theorem Frozen.refl (hstopped : c.stopped = true) (hflights : c.flights = []) : Frozen c c :=
  ⟨hstopped, hflights, rfl, rfl, fun _ _ hv => hv⟩

theorem Frozen.obstacle? (h : Frozen c d) : d.obstacle? = some .stopped :=
  obstacle?_eq_some.mpr h.stopped

theorem Frozen.beginPoll (h : Frozen c d) (origin : Origin) : Frozen c (d.beginPoll origin) := by
  rw [beginPoll_of_obstacle h.obstacle?]
  exact ⟨h.stopped, h.flights, h.requests, h.counts, h.cache⟩

theorem Frozen.receive_eq (h : Frozen c d) (n : Nat) : d.receive n = d := by
  simp [receive, h.flights]

theorem Frozen.land_eq (h : Frozen c d) (place : Nat) : d.land place = d := by
  simp [land, h.flights]

theorem Frozen.reply_eq (h : Frozen c d) (n : Nat) : d.reply n = d := by
  simp [reply, receive, h.flights]

theorem Frozen.abort (h : Frozen c d) (index : Nat) : Frozen c (d.abort index) := by
  have hnone : (d.abort index).flights = [] := by
    show d.flights.filter _ = []
    rw [h.flights]
    rfl
  have hrequests : (d.abort index).requests = d.requests := by
    show d.requests.finishAll ((d.flights.filter _).flatMap _) = _
    rw [h.flights]
    rfl
  exact ⟨h.stopped, hnone, hrequests.trans h.requests, h.counts, h.cache⟩

theorem Frozen.evict (h : Frozen c d) (resource : String) :
    Frozen c { d with cache := d.cache.erase resource } where
  stopped := h.stopped
  flights := h.flights
  requests := h.requests
  counts := h.counts
  cache r v hv := by
    rw [KeyMap.get?_erase] at hv
    split at hv
    · cases hv
    · exact h.cache r v hv

end Controller

namespace Tasks

variable {t : Tasks δ} {u : Turn} {c d : Controller δ}

/-! ## Until the next start -/

theorem Effect.frozen (heffect : Effect t u d) (h : Controller.Frozen c t.controller)
    (hu : u.isStart = false) : Controller.Frozen c d := by
  cases heffect with
  | begins => exact h.beginPoll _
  | replies n => rw [h.reply_eq]; exact h
  | receives n => rw [h.receive_eq]; exact h
  | lands place => rw [h.land_eq]; exact h
  | aborts index => exact h.abort index
  | evicts resource => exact h.evict resource
  | starts => cases hu
  | loops _ hloop =>
    rw [hloop.eq]
    exact ⟨h.stopped, h.flights, h.requests, h.counts, h.cache⟩
  | host => exact ⟨h.stopped, h.flights, h.requests, h.counts, h.cache⟩

theorem frozen_run (h : Controller.Frozen c t.controller) {turns : List Turn}
    (hturns : ∀ u ∈ turns, u.isStart = false) : Controller.Frozen c (t.run turns).controller :=
  run_induction (P := fun e => Controller.Frozen c e.controller) h fun e u hu he =>
    (take_effect e u).frozen he (hturns u hu)

/-! ## Without a loop -/

theorem LoopTurn.ledger (h : LoopTurn c d) : d.ledger = c.ledger := by
  rw [h.eq]
  rfl

theorem LoopTurn.loop_eq_none (h : LoopTurn c d) (hnone : c.loop = none) : d.loop = none := by
  cases hloop : d.loop with
  | none => rfl
  | some l =>
    have hnumber := h.number l.number (by rw [hloop]; rfl)
    rw [hnone] at hnumber
    cases hnumber

/-- No loop runs, no poll waits to begin, and nothing was issued beyond what is on a ledger. -/
structure Still (ledger : Controller.Ledger) (t : Tasks δ) : Prop where
  loop : t.controller.loop = none
  asked : t.asked = []
  ledger : t.controller.ledger = ledger

/-- The turn of a loop that was told to stop and has not ended. -/
theorem Still.loopTurn {ledger : Controller.Ledger} {t' : Tasks δ} (h : Still ledger t)
    (hturn : LoopTurn t.controller t'.controller) (hasked : t'.asked = t.asked) :
    Still ledger t' where
  loop := hturn.loop_eq_none h.loop
  asked := hasked.trans h.asked
  ledger := hturn.ledger.trans h.ledger

theorem Still.take {ledger : Controller.Ledger} (h : Still ledger t) (hu : u.passes = true)
    (hlate : t.dismissed = [] ∨ u.isLate = false) : Still ledger (t.take u) := by
  cases u with
  | begin place =>
    show Still ledger (t.begin place)
    rw [begin, h.asked]
    exact h
  | tick s =>
    have hnone : t.loopAt? s = none := by
      cases s with
      | running => exact h.loop
      | dismissed place =>
        have hdismissed := hlate.resolve_right (Ne.symm Bool.false_ne_true)
        rw [loopAt?, hdismissed]
        rfl
    show Still ledger (t.tick s)
    rw [tick, hnone]
    exact h
  | wake s => exact h.loopTurn (loopTurn_wake t s) (asked_wake t s)
  | heed place => exact h.loopTurn (loopTurn_endLoop t _) (asked_endLoop t _)
  | reply n => exact ⟨(Controller.loop_reply _ n).trans h.loop, h.asked,
      (Controller.ledger_reply _ n).trans h.ledger⟩
  | receive n =>
    refine ⟨?_, h.asked, (Controller.ledger_receive _ n).trans h.ledger⟩
    show (t.controller.receive n).loop = none
    rw [Controller.receive_frame]
    exact h.loop
  | land place =>
    refine ⟨?_, h.asked, (Controller.ledger_land _ place).trans h.ledger⟩
    show (t.controller.land place).loop = none
    rw [Controller.land_frame]
    exact h.loop
  | pass => exact ⟨h.loop, h.asked, h.ledger⟩
  | poll | spawn | abort | setVisible | start | stop | evict => cases hu

/-- A loop is told to stop before it has had a turn. No loop runs, but its first tick is due: it may
tick before it hears that it is to stop, and the poll that it asks for begins when it has ended. -/
theorem fetched_after_stop :
    let setup : Setup Nat := ⟨["a"], fun _ count => ⟨0, .ok count⟩, "/models", true⟩
    let t := (initial setup true).run [.start 1000, .stop]
    let e := t.run [.tick (.dismissed 0), .heed 0]
    t.controller.isRunning = false ∧ e.loops.length = 0 ∧ e.controller.fetched "a" = 0 ∧
      (e.run [.begin 0]).controller.fetched "a" = 1 := by
  decide

end Tasks

end RunTable.Poll
