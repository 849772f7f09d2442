import RunTable.Proofs.Poll.Delivery
import RunTable.Proofs.Poll.Order

/-! # What is to be heard of polling

Whether polling is stopped, how many polls are under way, and what the receiver
of the last loop is to be told are the outlook of a controller. Without another
start it changes in few ways (`Shift`). A poll takes off only while polling is
not stopped, and that a resource is gone stops it. So when the receiver has been
told this, it can hear no more than what comes of the polls under way (`Ebbs`).

It hears nothing more if the polls are dealt with one by one. This is not for
granted: when the last reply of a poll has come, its requests do not stand in
the way of another, which can then take off before the first is dealt with. -/

namespace RunTable.Poll

variable {δ : Type}

def Event.isRefresh : Event → Bool
  | .refreshed _ _ => true
  | .notFound _ _ => false

/-- Whether polling is stopped, how many polls are under way, and what the receiver of the last loop
is to be told. -/
structure Outlook where
  stopped : Bool
  underWay : Nat
  told : List Event

/-- How the outlook changes when no loop starts: polls are given up, a poll takes off, a poll of no
resources is over at once, and a poll under way is over. What is over is told if it is a poll of the
last loop. That a poll takes off can be subject to its being the only one. -/
inductive Shift (redirect : String) (alone : Prop) : Outlook → Outlook → Prop where
  | drops {o : Outlook} {n : Nat} (h : n ≤ o.underWay) :
    Shift redirect alone o { o with underWay := n }
  | takesOff {n : Nat} {told : List Event} (h : alone → n = 0) :
    Shift redirect alone ⟨false, n, told⟩ ⟨false, n + 1, told⟩
  | atOnce {n : Nat} {told : List Event} (tells : Bool) :
    Shift redirect alone ⟨false, n, told⟩
      ⟨false, n, told ++ if tells then [.refreshed 0 0] else []⟩
  | refreshes {stopped : Bool} {n : Nat} {told : List Event} (tells : Bool) (fetched failed : Nat) :
    Shift redirect alone ⟨stopped, n + 1, told⟩
      ⟨stopped, n, told ++ if tells then [.refreshed fetched failed] else []⟩
  | misses {stopped : Bool} {n : Nat} {told : List Event} (tells : Bool) (resource : String) :
    Shift redirect alone ⟨stopped, n + 1, told⟩
      ⟨true, n, told ++ if tells then [.notFound resource redirect] else []⟩

/-! ## Outlooks -/

section

variable {redirect : String} {alone : Prop} {o o' first : Outlook}

theorem isRefresh_append {before : List Event} (h : ∀ e ∈ before, e.isRefresh = true) (tells : Bool)
    (fetched failed : Nat) :
    ∀ e ∈ before ++ if tells then [.refreshed fetched failed] else [], e.isRefresh = true := by
  intro e he
  rcases List.mem_append.mp he with he | he
  · exact h e he
  · obtain ⟨_, he⟩ := List.mem_ite_nil_right.mp he
    rw [List.mem_singleton.mp he]
    rfl

theorem length_tells_le (tells : Bool) (e : Event) : (if tells then [e] else []).length ≤ 1 := by
  cases tells with
  | false => exact Nat.zero_le 1
  | true => exact Nat.le_refl 1

/-- If the receiver was told that a resource is gone, polling is stopped. -/
def Outlook.Halts (o : Outlook) : Prop := (∀ e ∈ o.told, e.isRefresh = true) ∨ o.stopped = true

theorem Outlook.Halts.isRefresh (h : o.Halts) (hgo : o.stopped = false) :
    ∀ e ∈ o.told, e.isRefresh = true :=
  h.resolve_right (ne_true_of_eq_false hgo)

theorem Shift.halts (h : Shift redirect alone o o') (ho : o.Halts) : o'.Halts := by
  cases h with
  | drops => exact ho
  | takesOff => exact ho
  | atOnce tells => exact .inl (isRefresh_append (ho.isRefresh rfl) tells 0 0)
  | refreshes tells fetched failed =>
    exact ho.imp_left fun hrefresh => isRefresh_append hrefresh tells fetched failed
  | misses => exact .inr rfl

/-- Since a first outlook nothing took off, and what was told comes of polls that were under way. -/
structure Ebbs (first o : Outlook) : Prop where
  stopped : o.stopped = true
  told : ∃ more, o.told = first.told ++ more ∧ more.length + o.underWay ≤ first.underWay

theorem Ebbs.refl (h : o.stopped = true) : Ebbs o o :=
  ⟨h, [], (List.append_nil _).symm, Nat.le_of_eq (Nat.zero_add _)⟩

/-- A poll under way is over, and tells at most one event. -/
theorem Ebbs.over {stopped : Bool} {n : Nat} {told events : List Event}
    (h : Ebbs first ⟨stopped, n + 1, told⟩) (hevents : events.length ≤ 1) :
    Ebbs first ⟨true, n, told ++ events⟩ := by
  obtain ⟨-, more, htold, hmore⟩ := h
  refine ⟨rfl, more ++ events, ?_, ?_⟩
  · rw [← List.append_assoc, ← htold]
  · rw [List.length_append]
    dsimp only at hmore ⊢
    omega

theorem Shift.ebbs (h : Shift redirect alone o o') (ho : Ebbs first o) : Ebbs first o' := by
  cases h with
  | drops hn =>
    obtain ⟨more, htold, hmore⟩ := ho.told
    exact ⟨ho.stopped, more, htold, Nat.le_trans (Nat.add_le_add_left hn _) hmore⟩
  | takesOff | atOnce => cases ho.stopped
  | refreshes tells => exact ho.stopped ▸ ho.over (length_tells_le tells _)
  | misses tells => exact ho.over (length_tells_le tells _)

end

/-! ## The outlook of a controller -/

namespace Controller

variable {c : Controller δ} {alone : Prop}

/-- What the receiver of the last loop is to be told. -/
def lastTold (c : Controller δ) : List Event :=
  told c.setup.redirect (c.channels.length - 1) c.history

def outlook (c : Controller δ) : Outlook := ⟨c.stopped, c.flights.length, c.lastTold⟩

/-- Whether a poll is one of the last loop. -/
def isLast (c : Controller δ) (origin : Origin) : Bool := origin = .tick (c.channels.length - 1)

theorem outlook_conclude (c : Controller δ) (origin : Origin) (outcome : Outcome) :
    (c.conclude origin outcome).outlook = { c.outlook with
      told := c.lastTold ++
        if c.isLast origin then (eventOf? c.setup.redirect outcome).toList else [] } := by
  unfold outlook lastTold isLast
  rw [length_conclude]
  simp only [decide_eq_true_eq]
  exact congrArg (Outlook.mk _ _) (told_append ..)

/-- A poll comes to its guard. -/
theorem shift_beginPoll (c : Controller δ) (origin : Origin)
    (h : alone → c.obstacle? = none → c.flights = []) :
    Shift c.setup.redirect alone c.outlook (c.beginPoll origin).outlook := by
  rcases beginPoll_cases c origin with
    ⟨reason, _, heq⟩ | ⟨hclear, _, heq⟩ | ⟨hclear, f, _, _, _, heq⟩
  · rw [heq, outlook_conclude]
    have hsame : (if c.isLast origin then ([] : List Event) else []) = [] := ite_self _
    show Shift _ _ _ { c.outlook with told := c.lastTold ++ if c.isLast origin then [] else [] }
    rw [hsame, List.append_nil]
    exact .drops (Nat.le_refl _)
  · have hgo : c.stopped = false := (obstacle?_eq_none.mp hclear).1
    rw [heq, outlook_conclude, outlook, hgo]
    exact .atOnce _
  · have hgo : c.stopped = false := (obstacle?_eq_none.mp hclear).1
    rw [heq]
    show Shift _ _ ⟨c.stopped, _, _⟩ ⟨c.stopped, (c.flights ++ [f]).length, c.lastTold⟩
    rw [hgo, List.length_append]
    exact .takesOff fun halone => List.length_eq_zero_iff.mpr (h halone hclear)

theorem outlook_receive (c : Controller δ) (n : Nat) : (c.receive n).outlook = c.outlook := by
  have hflights : (c.receive n).flights.length = c.flights.length := by
    rw [← List.length_map (f := Flight.origin), origins_receive, List.length_map]
  unfold outlook lastTold
  rw [hflights, receive_frame]

/-- A poll under way is dealt with, if all of its replies have come. -/
theorem shift_land (c : Controller δ) (place : Nat) :
    Shift c.setup.redirect alone c.outlook (c.land place).outlook := by
  unfold land
  split
  · next f hf =>
    split
    · exact .drops (Nat.le_refl _)
    · obtain ⟨hlt, _⟩ := List.getElem?_eq_some_iff.mp hf
      have hlength : c.flights.length = (c.flights.eraseIdx place).length + 1 := by
        rw [List.length_eraseIdx_of_lt hlt]
        omega
      unfold handle
      rcases outcomeOf_cases f.fetches with ⟨resource, heq⟩ | ⟨fetched, failed, heq⟩ <;>
        rw [heq, outlook_conclude, outlook, hlength]
      · have hgone : (c.stopped || true) = true := Bool.or_true _
        show Shift _ _ _ ⟨c.stopped || true, _, _⟩
        rw [hgone]
        exact .misses _ resource
      · have hgone : (c.stopped || false) = c.stopped := Bool.or_false _
        show Shift _ _ _ ⟨c.stopped || false, _, _⟩
        rw [hgone]
        exact .refreshes _ fetched failed
  · exact .drops (Nat.le_refl _)

theorem shift_reply (c : Controller δ) (n : Nat) :
    Shift c.setup.redirect alone c.outlook (c.reply n).outlook := by
  have hsetup : (c.receive n).setup = c.setup := by rw [receive_frame]
  rw [← outlook_receive c n, ← hsetup]
  unfold reply
  dsimp only
  split
  · exact shift_land ..
  · exact .drops (Nat.le_refl _)

end Controller

/-! ## Turns -/

namespace Tasks

variable {t : Tasks δ} {u : Turn} {d : Controller δ} {turns : List Turn}

theorem LoopTurn.outlook {c : Controller δ} (h : LoopTurn c d) : d.outlook = c.outlook := by
  unfold Controller.outlook Controller.lastTold
  rw [h.length, h.eq]

/-- A poll that takes off with a turn is the only one under way. -/
def Alone (t : Tasks δ) (u : Turn) : Prop :=
  (t.asks u).isSome = true → t.controller.obstacle? = none → t.controller.flights = []

theorem Effect.shift (h : Effect t u d) (hu : u.isStart = false) :
    Shift t.controller.setup.redirect (t.Alone u) t.controller.outlook d.outlook := by
  cases h with
  | begins hasks =>
    exact Controller.shift_beginPoll _ _ fun halone => halone (Option.isSome_of_eq_some hasks)
  | replies n => exact Controller.shift_reply _ n
  | receives n => exact Controller.outlook_receive _ n ▸ .drops (Nat.le_refl _)
  | lands place => exact Controller.shift_land _ place
  | aborts => exact .drops (List.length_filter_le ..)
  | evicts | host => exact .drops (Nat.le_refl _)
  | starts => cases hu
  | loops _ hloop => exact hloop.outlook ▸ .drops (Nat.le_refl _)

/-- Nothing is known of a new loop. -/
theorem Effect.outlook_of_start (h : Effect t u d) (hu : u.isStart = true)
    (hdelivers : t.Delivers) : d.outlook = ⟨false, t.controller.flights.length, []⟩ := by
  cases h with
  | begins hasks => rw [isStart_of_asks hasks] at hu; cases hu
  | replies | receives | lands | aborts | evicts => cases hu
  | loops hnot | host hnot => rw [hnot] at hu; cases hu
  | @starts _ e _ hloop =>
    have hnew : .tick e.channels.length ∉ e.history.map Prod.fst := by
      rw [hloop.length, hloop.eq]
      intro hmem
      exact Nat.lt_irrefl _ (hdelivers.delivered.known _ (List.mem_append_right _ hmem))
    have hflights : e.flights = t.controller.flights := by rw [hloop.eq]
    show (⟨false, e.flights.length, told e.setup.redirect
      ((e.channels ++ [Channel.opened]).length - 1) e.history⟩ : Outlook) = _
    rw [hflights, List.length_append, List.length_singleton, Nat.add_sub_cancel, told_eq_nil hnew]

theorem Effect.halts (h : Effect t u d) (hdelivers : t.Delivers)
    (hhalts : t.controller.outlook.Halts) : d.outlook.Halts := by
  cases hu : u.isStart with
  | false => exact (h.shift hu).halts hhalts
  | true =>
    rw [h.outlook_of_start hu hdelivers]
    exact .inl fun _ he => nomatch he

theorem halts_run (hdelivers : t.Delivers) (h : t.controller.outlook.Halts) (turns : List Turn) :
    (t.run turns).controller.outlook.Halts :=
  (run_induction (P := fun e => e.Delivers ∧ e.controller.outlook.Halts) ⟨hdelivers, h⟩
    fun e u _ he => ⟨he.1.take u, (take_effect e u).halts he.1 he.2⟩).2

theorem ebbs_run (h : t.controller.stopped = true) (hturns : ∀ u ∈ turns, u.isStart = false) :
    Ebbs t.controller.outlook (t.run turns).controller.outlook :=
  run_induction (P := fun e => Ebbs t.controller.outlook e.controller.outlook) (.refl h)
    fun e u hu he => ((take_effect e u).shift (hturns u hu)).ebbs he

/-- Whether polls are dealt with one by one in a run: each poll that takes off is the only one under
way, so that every other has been dealt with. -/
def oneByOne (t : Tasks δ) : List Turn → Bool
  | [] => true
  | u :: turns =>
    ((t.asks u).isNone || t.controller.obstacle?.isSome || t.controller.flights.isEmpty) &&
      (t.take u).oneByOne turns

end Tasks

end RunTable.Poll
