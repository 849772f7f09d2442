import RunTable.Proofs.Poll.Coherence
import RunTable.Proofs.Poll.Turns

/-! # Polls that are dealt with at once

Scheduling is cooperative: the last reply of a poll and what it leads to are
one turn. Then every poll under way still awaits a reply, so that there is at
most one, and none once polling is stopped. -/

namespace RunTable.Poll

variable {δ : Type}

namespace Controller

variable {c : Controller δ}

/-- Every poll under way awaits a reply, and there is none while polling is stopped. -/
structure Orderly (c : Controller δ) : Prop where
  coherent : c.Coherent
  active : ∀ f ∈ c.flights, f.isActive = true
  idle : c.stopped = true → c.flights = []

theorem orderly_initial (setup : Setup δ) (visible : Bool) : (initial setup visible).Orderly where
  coherent := coherent_initial setup visible
  active _ hf := nomatch hf
  idle _ := rfl

theorem Orderly.flights_cases (h : c.Orderly) : c.flights = [] ∨ ∃ f, c.flights = [f] := by
  have hlength : c.flights.length ≤ 1 := by
    have hone := h.coherent.one
    rwa [List.countP_eq_length.mpr h.active] at hone
  cases hflights : c.flights with
  | nil => exact .inl rfl
  | cons f rest =>
    rw [hflights, List.length_cons] at hlength
    have hrest : rest = [] := List.eq_nil_of_length_eq_zero (by omega)
    exact .inr ⟨f, by rw [hrest]⟩

theorem Orderly.flights_eq_nil (h : c.Orderly) (hidle : c.requests.activeCount = 0) :
    c.flights = [] := by
  rcases h.flights_cases with hnone | ⟨f, hone⟩
  · exact hnone
  · have hactive := h.active f (hone ▸ List.mem_singleton_self f)
    have hawaited := h.coherent.awaited_eq_nil hidle
    rw [hone, awaited, List.flatMap_singleton] at hawaited
    exact absurd hawaited (Flight.isActive_iff.mp hactive)

/-- What a reply makes of the one poll under way: nothing unless it is due, else the poll awaits the
others, or all of its replies are dealt with. -/
theorem Orderly.reply_of_one (h : c.Orderly) {f : Flight δ} (hone : c.flights = [f]) (n : Nat) :
    (∀ g ∈ f.fetches, g.request = n → g.isDue c.now = false) ∧ c.reply n = c ∨
      (f.receive n).isActive = true ∧ c.reply n = { c with
        requests := (c.requests.finish n).1
        flights := [f.receive n] } ∨
      (f.receive n).isActive = false ∧ c.reply n = { c with
        requests := (c.requests.finish n).1
        flights := [] }.handle (f.receive n) := by
  have hactive : f.isActive = true := h.active f (hone ▸ List.mem_singleton_self f)
  unfold reply receive
  split
  · right
    cases hnext : (f.receive n).isActive with
    | true => exact .inl ⟨rfl, by simp [hone, hnext]⟩
    | false => exact .inr ⟨rfl, by simp [hone, hnext, land]⟩
  · next hnot =>
    left
    refine ⟨fun g hg hn => ?_, by simp [hone, hactive]⟩
    refine Bool.eq_false_iff.mpr fun hdue => hnot ?_
    exact List.any_eq_true.mpr ⟨f, hone ▸ List.mem_singleton_self f,
      List.any_eq_true.mpr ⟨g, hg, by simp [hn, hdue]⟩⟩

/-- What becomes of a poll under way when a reply comes: it awaits the others, or all of its
replies are dealt with. -/
theorem Orderly.reply_cases (h : c.Orderly) (n : Nat) :
    c.reply n = c ∨ ∃ f, c.flights = [f] ∧
      ((f.receive n).isActive = true ∧ c.reply n = { c with
        requests := (c.requests.finish n).1
        flights := [f.receive n] } ∨
      (f.receive n).isActive = false ∧ c.reply n = { c with
        requests := (c.requests.finish n).1
        flights := [] }.handle (f.receive n)) := by
  rcases h.flights_cases with hnone | ⟨f, hone⟩
  · left
    simp [reply, receive, hnone]
  · rcases h.reply_of_one hone n with ⟨_, heq⟩ | hcame
    · exact .inl heq
    · exact .inr ⟨f, hone, hcame⟩

theorem Orderly.beginPoll (h : c.Orderly) (origin : Origin) : (c.beginPoll origin).Orderly := by
  refine ⟨h.coherent.beginPoll origin, ?_, ?_⟩ <;>
    rcases beginPoll_cases c origin with
      ⟨_, _, heq⟩ | ⟨_, _, heq⟩ | ⟨hclear, f, _, hactive, _, heq⟩ <;> rw [heq]
  · exact h.active
  · exact h.active
  · intro g hg
    rcases List.mem_append.mp hg with hg | hg
    · exact h.active g hg
    · rw [List.mem_singleton.mp hg]
      exact hactive
  · exact h.idle
  · exact h.idle
  · intro hstopped
    have hgo := (obstacle?_eq_none.mp hclear).1
    rw [show c.stopped = true from hstopped] at hgo
    cases hgo

theorem Orderly.reply (h : c.Orderly) (n : Nat) : (c.reply n).Orderly := by
  have hcoherent := h.coherent.reply n
  rcases h.reply_cases n with heq | ⟨f, hone, ⟨hactive, heq⟩ | ⟨_, heq⟩⟩
  · rw [heq]
    exact h
  · rw [heq] at hcoherent ⊢
    refine ⟨hcoherent, fun g hg => List.mem_singleton.mp hg ▸ hactive, fun hstopped => ?_⟩
    have hnone := h.idle hstopped
    rw [hone] at hnone
    cases hnone
  · rw [heq] at hcoherent ⊢
    exact ⟨hcoherent, (fun _ hg => nomatch hg), fun _ => rfl⟩

theorem Orderly.abort (h : c.Orderly) (index : Nat) : (c.abort index).Orderly where
  coherent := h.coherent.abort index
  active f hf := h.active f (List.mem_filter.mp hf).1
  idle hstopped := by
    show c.flights.filter _ = []
    rw [h.idle hstopped]
    rfl

theorem Orderly.endLoop (h : c.Orderly) : c.endLoop.Orderly := by
  rw [endLoop_frame]
  exact ⟨h.coherent, h.active, h.idle⟩

theorem Orderly.wake (h : c.Orderly) : c.wake.Orderly := by
  rw [wake_frame]
  exact ⟨h.coherent, h.active, h.idle⟩

theorem Orderly.openLoop (h : c.Orderly) (interval : Nat) : (c.openLoop interval).Orderly where
  coherent := h.coherent.endLoop
  active := h.endLoop.active
  idle hstopped := nomatch hstopped

end Controller

namespace Tasks

variable {t : Tasks δ} {u : Turn} {d : Controller δ}

theorem Effect.orderly (heffect : Effect t u d) (h : t.controller.Orderly)
    (hwhole : u.isWhole = true) : d.Orderly := by
  cases heffect with
  | begins => exact h.beginPoll _
  | replies n => exact h.reply n
  | receives | lands => cases hwhole
  | aborts index => exact h.abort index
  | evicts | host => exact ⟨h.coherent, h.active, h.idle⟩
  | starts hloop =>
    rw [hloop.eq]
    exact ⟨h.coherent, h.active, fun hstopped => nomatch hstopped⟩
  | loops _ hloop =>
    rw [hloop.eq]
    exact ⟨h.coherent, h.active, h.idle⟩

theorem orderly_run (h : t.controller.Orderly) {turns : List Turn}
    (hwhole : ∀ u ∈ turns, u.isWhole = true) : (t.run turns).controller.Orderly :=
  run_induction (P := fun e => e.controller.Orderly) h fun e u hu he =>
    (take_effect e u).orderly he (hwhole u hu)

end Tasks

namespace Controller

variable {c : Controller δ}

theorem Orderly.act (h : c.Orderly) (m : Move) : (c.act m).Orderly := by
  have hrun := Tasks.orderly_run (t := .of c) h m.isWhole_of_mem_turns
  rwa [Tasks.run_turns_act] at hrun

theorem Orderly.run (h : c.Orderly) (moves : List Move) : (c.run moves).Orderly :=
  run_induction h fun _ m _ hd => hd.act m

end Controller

end RunTable.Poll
