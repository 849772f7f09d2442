import RunTable.Proofs.Poll.Outlook

/-! # The last event of a loop

Once a loop has ended and its polls are over, nobody is left that could send to
its receiver, and nobody else comes to it (`Spent`): each loop has a channel of
its own. So a closed channel stays as it is.

That a resource is gone stops polling. Its receiver can then hear of the polls
under way, and of no others before another loop starts. It is the last that the
receiver is told if the polls were dealt with one by one, as they are when the
task that takes in the last reply of a poll also deals with it. -/

namespace RunTable.Poll

variable {δ : Type}

/-! ## Closed channels -/

/-- Nobody can send to the receiver of a loop, which was told certain events. -/
structure Spent (redirect : String) (k : Nat) (events : List Event) (b : Books) : Prop where
  known : k < b.channels.length
  idle : .tick k ∉ b.senders
  events : told redirect k b.history = events

theorem Spent.posts {redirect : String} {k : Nat} {events : List Event} {b b' : Books}
    (h : Spent redirect k events b) (hposts : Posts redirect b b') :
    Spent redirect k events b' := by
  obtain ⟨hknown, hidle, hevents⟩ := h
  cases hposts with
  | recount hcount =>
    refine ⟨hknown, fun hmem => hidle (List.count_pos_iff.mp ?_), hevents⟩
    exact hcount k ▸ List.count_pos_iff.mpr hmem
  | record outcome horigin =>
    exact ⟨hknown, hidle, (told_append_of_ne (horigin k) outcome).trans hevents⟩
  | conclude j outcome =>
    have hne : Origin.tick j ≠ .tick k := fun heq => hidle (heq ▸ List.mem_cons_self)
    refine ⟨?_, fun hmem => hidle (List.mem_cons_of_mem _ hmem),
      (told_append_of_ne hne outcome).trans hevents⟩
    rwa [List.length_modify]
  | share j =>
    refine ⟨by rwa [List.length_modify], fun hmem => hidle ?_, hevents⟩
    rcases List.mem_cons.mp hmem with heq | hmem
    · exact heq ▸ List.mem_cons_self
    · exact hmem
  | withdraw j =>
    exact ⟨by rwa [List.length_modify], fun hmem => hidle (List.mem_cons_of_mem _ hmem), hevents⟩
  | @opens senders history channels =>
    have hknown : k < channels.length := hknown
    refine ⟨?_, fun hmem => ?_, hevents⟩
    · rw [List.length_append]
      exact Nat.lt_add_right 1 hknown
    · -- the new loop has a number of its own
      rcases List.mem_cons.mp hmem with heq | hmem
      · exact Nat.ne_of_lt hknown (Origin.tick.inj heq)
      · exact hidle hmem

namespace Tasks

variable {t : Tasks δ} {u : Turn} {d : Controller δ} {turns : List Turn} {k : Nat}

theorem Delivers.received_eq (h : t.Delivers) : t.controller.received = t.controller.lastTold := by
  unfold Controller.received Controller.lastTold
  rw [List.getLast?_eq_getElem?]
  cases hch : t.controller.channels[t.controller.channels.length - 1]? with
  | none =>
    have hnone : t.controller.channels.length = 0 := by
      have := List.getElem?_eq_none_iff.mp hch
      omega
    refine (told_eq_nil fun hmem => ?_).symm
    have hlt : _ < t.controller.channels.length :=
      h.delivered.known _ (List.mem_append_right _ hmem)
    omega
  | some ch =>
    rw [h.delivered.channel _ ch hch]
    rfl

/-- Until another loop starts, the receiver of the last hears only of the polls under way while
polling is stopped. -/
theorem received_ebbs (h : t.Delivers) (hstopped : t.controller.stopped = true) {later : List Turn}
    (hlater : ∀ u ∈ later, u.isStart = false) :
    ∃ more, (t.run later).controller.received = t.controller.received ++ more ∧
      more.length + (t.run later).controller.flights.length ≤ t.controller.flights.length := by
  rw [(h.run later).received_eq, h.received_eq]
  exact (ebbs_run hstopped hlater).told

theorem received_of_idle (h : t.Delivers) (hstopped : t.controller.stopped = true)
    (hflights : t.controller.flights = []) {later : List Turn}
    (hlater : ∀ u ∈ later, u.isStart = false) :
    (t.run later).controller.received = t.controller.received := by
  obtain ⟨more, hmore, hlength⟩ := received_ebbs h hstopped hlater
  rw [hflights, List.length_nil] at hlength
  obtain rfl : more = [] := List.length_eq_zero_iff.mp (by omega)
  rw [hmore, List.append_nil]

/-- Between the last reply of a poll and the moment when it is dealt with, another poll of the loop
takes off. It is told of after the first, which found that the resource was gone. -/
theorem refreshed_after_gone :
    let setup : Setup Nat := ⟨["a"], fun _ count => ⟨0,
      if count = 1 then .error (.notFound "gone") else .ok count⟩, "/models", true⟩
    let turns : List Turn := [.start 1000, .tick .running, .begin 0, .receive 0, .pass 1000,
      .tick .running, .begin 0, .land 0, .receive 1, .land 0]
    (initial setup true).oneByOne turns = false ∧
      ((initial setup true).run turns).controller.received =
        [.notFound "a" "/models", .refreshed 1 0] := by
  decide

end Tasks

end RunTable.Poll
