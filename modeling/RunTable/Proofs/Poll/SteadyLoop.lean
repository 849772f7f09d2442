import Mathlib.Algebra.Order.Ring.Nat
import RunTable.Proofs.Poll.Completion
import RunTable.Proofs.Poll.LoopEnd

/-! # A loop that keeps its pace

While fetches are answered at once and no resource is gone, whatever is due at
one moment is one poll of the loop, which is over within that moment
(`Quiet.settle`). Between two ticks nothing is due. So the number of polls is
that of the multiples of the interval that have passed, however the time is cut
into steps (`Beats`). What happened before the loop was started does not matter:
a call to a halt that is left over is heard and ignored, and the start takes
back that polling was stopped. -/

namespace RunTable.Poll.Controller

variable {δ : Type} {b c d : Controller δ} {f : Flight δ} {l : Loop}

/-- Whether fetches still to come are answered at once, and find no resource gone. -/
def Prompt (c : Controller δ) : Prop :=
  ∀ r ∈ c.setup.resources, ∀ count, c.fetched r < count →
    (c.setup.source r count).delay = 0 ∧ (c.setup.source r count).reply.isGone = false

/-- Nothing is under way, nothing stands in the way of a poll, and none takes time. -/
structure Quiet (c : Controller δ) : Prop where
  orderly : c.Orderly
  flights : c.flights = []
  running : c.stopped = false
  visible : c.isVisible = true
  prompt : c.Prompt

theorem Prompt.of_le (h : c.Prompt) (hsetup : d.setup = c.setup)
    (hle : ∀ r, c.fetched r ≤ d.fetched r) : d.Prompt := by
  intro r hr count hcount
  rw [hsetup] at hr ⊢
  exact h r hr count (Nat.lt_of_le_of_lt (hle r) hcount)

theorem Prompt.issueFetches (h : c.Prompt) {resources : List String}
    (hlisted : ∀ r ∈ resources, r ∈ c.setup.resources) :
    ∀ g ∈ (c.issueFetches resources).2, g.due = c.now ∧ g.reply.isGone = false := by
  induction resources generalizing c with
  | nil => exact fun _ hg => nomatch hg
  | cons r rest ih =>
    obtain ⟨hr, hrest⟩ := List.forall_mem_cons.mp hlisted
    obtain ⟨hdelay, hkept⟩ := h r hr (c.fetched r + 1) (Nat.lt_succ_self _)
    refine List.forall_mem_cons.mpr ⟨⟨?_, hkept⟩, ?_⟩
    · exact congrArg (c.now + ·) hdelay
    · refine ih (c := (c.issueFetch r).1) (h.of_le rfl fun x => ?_) hrest
      show _ ≤ ((countAll c.counts [r]).get? x).getD 0
      rw [getD_countAll]
      exact Nat.le_add_right ..

/-! ## What is due at one moment -/

theorem Orderly.nodup_awaited (h : c.Orderly) (hone : c.flights = [f]) : f.awaited.Nodup := by
  have hnodup := h.coherent.nodup
  rwa [hone, awaited, List.flatMap_singleton] at hnodup

/-- When the replies to a poll are due, all come and the poll is dealt with. -/
theorem Orderly.run_replies (h : c.Orderly) (hone : c.flights = [f])
    (hdue : ∀ g ∈ f.fetches, g.due ≤ c.now) :
    ∃ f', f'.origin = f.origin ∧ f'.entries = f.entries ∧
      c.run (f.awaited.map .reply) = { c with
        requests := c.requests.finishAll f.awaited
        flights := [] }.handle f' := by
  generalize hnumbers : f.awaited = numbers
  induction numbers generalizing c f with
  | nil =>
    have hactive := h.active f (hone ▸ List.mem_singleton_self f)
    exact absurd hnumbers (Flight.isActive_iff.mp hactive)
  | cons n numbers ih =>
    have hn : n ∈ f.awaited := hnumbers ▸ List.mem_cons_self
    have hrest : (f.receive n).awaited = numbers := by
      have hnodup := h.nodup_awaited hone
      rw [hnumbers] at hnodup
      rw [f.awaited_receive, hnumbers, List.filter_cons_of_neg (by simp)]
      refine List.filter_eq_self.mpr fun m hm => decide_eq_true ?_
      rintro rfl
      exact (List.nodup_cons.mp hnodup).1 hm
    have horderly := h.reply n
    show ∃ f', _ ∧ _ ∧ (c.reply n).run (numbers.map .reply) = _
    rcases h.reply_of_one hone n with ⟨hnot, _⟩ | ⟨_, heq⟩ | ⟨hover, heq⟩
    · obtain ⟨g, hg, hwaits, hrequest⟩ := Flight.mem_awaited.mp hn
      have hlate := hnot g hg hrequest
      rw [Fetch.isDue, hwaits, decide_eq_true (hdue g hg)] at hlate
      cases hlate
    · rw [heq] at horderly ⊢
      have hdue : ∀ g ∈ (f.receive n).fetches, g.due ≤ c.now := by
        intro g hg
        obtain ⟨old, hold, rfl⟩ := List.mem_map.mp hg
        have hold := hdue old hold
        split <;> exact hold
      obtain ⟨f', horigin, hentries, hrun⟩ := ih horderly rfl hdue hrest
      exact ⟨f', horigin, hentries.trans (f.entries_receive n), hrun⟩
    · obtain rfl : numbers = [] := hrest ▸ Flight.awaited_eq_nil hover
      refine ⟨f.receive n, rfl, f.entries_receive n, ?_⟩
      rw [heq]
      rfl

theorem arrive_of_none (h : c.flights = []) : c.arrive = c.wake := by
  unfold arrive dueRequests
  rw [h]
  rfl

/-- When the replies to the poll under way are due, they come and the poll is dealt with. -/
theorem Orderly.arrive_of_due (h : c.Orderly) (hone : c.flights = [f])
    (hdue : ∀ g ∈ f.fetches, g.due ≤ c.now) :
    ∃ f', f'.origin = f.origin ∧ f'.entries = f.entries ∧
      c.arrive = ({ c with
        requests := c.requests.finishAll f.awaited
        flights := [] }.handle f').wake := by
  have hnumbers : c.dueRequests = f.awaited := by
    unfold dueRequests Flight.awaited
    rw [hone, List.flatMap_singleton]
    refine congrArg _ (List.filter_congr fun g hg => ?_)
    rw [Fetch.isDue, decide_eq_true (hdue g hg), Bool.and_true]
  obtain ⟨f', horigin, hentries, hrun⟩ := h.run_replies hone hdue
  refine ⟨f', horigin, hentries, ?_⟩
  rw [arrive, hnumbers, run_append, hrun]
  rfl

/-- While polling goes on, a call to a halt is heard and ignored. -/
theorem wake_of_running (h : c.stopped = false) : c.wake = { c with halt := c.wake.halt } := by
  unfold wake
  split
  · rw [if_neg (Bool.eq_false_iff.mp h)]
  · rfl

/-- A poll that finds nothing gone is written down, and polling goes on. -/
theorem handle_of_kept (c : Controller δ) (h : ∀ e ∈ f.entries, e.reply.isGone = false) :
    ∃ fetched failed, fetched + failed = f.entries.length ∧
      c.handle f = { c with cache := f.fetches.foldl store c.cache }.conclude f.origin
        (.completed fetched failed) := by
  refine ⟨_, _, countP_add_countP_of_kept h, ?_⟩
  unfold handle
  rw [f.reports.completed h]
  simp only [Bool.or_false]

/-! ## One tick -/

theorem Prompt.nextEntries (h : c.Prompt) : ∀ e ∈ c.nextEntries, e.reply.isGone = false := by
  intro e he
  rw [Controller.nextEntries, ← entries_issueFetches] at he
  obtain ⟨g, hg, rfl⟩ := List.mem_map.mp he
  exact (h.issueFetches (fun _ hr => hr) g hg).2

theorem length_nextEntries (c : Controller δ) :
    c.nextEntries.length = c.setup.resources.length := by
  have hresources : c.nextEntries.map (·.resource) = c.setup.resources := resource_entriesOf ..
  rw [← hresources, List.length_map]

theorem Quiet.obstacle? (h : c.Quiet) : c.obstacle? = none := by
  refine obstacle?_eq_none.mpr ⟨h.running, h.visible, ?_⟩
  rw [h.orderly.coherent.activeCount_eq, h.flights]
  rfl

/-- A poll of a loop took place between two states, within one moment, and found nothing gone. -/
structure Beat (c d : Controller δ) (l : Loop) : Prop where
  setup : d.setup = c.setup
  visible : d.visible = c.visible
  stopped : d.stopped = c.stopped
  flights : d.flights = []
  loop : d.loop = some { l with nextTick := c.now + l.interval }
  resources : d.requests.resources = c.requests.resources ++ c.setup.resources
  fetched : ∀ r, d.fetched r = c.fetched r + c.setup.resources.count r
  history : ∃ fetched failed, fetched + failed = c.setup.resources.length ∧
    d.history = c.history ++ [(.tick l.number, .completed fetched failed)]

theorem beat_of_handle (hrunning : c.stopped = false) (horigin : f.origin = .tick l.number)
    (hentries : f.entries = c.nextEntries) (hprompt : c.Prompt) (ended : List Nat) :
    Beat c ({ (c.prepareTick l).issued with
      requests := (c.prepareTick l).issued.requests.finishAll ended
      flights := [] }.handle f).wake l := by
  have hkept : ∀ e ∈ f.entries, e.reply.isGone = false := hentries ▸ hprompt.nextEntries
  have hlength : f.entries.length = c.setup.resources.length := hentries ▸ length_nextEntries c
  have hresources := (Requests.resources_finishAll (c.prepareTick l).issued.requests ended).trans
    (Requests.resources_startAll c.requests c.setup.resources)
  obtain ⟨fetched, failed, hsum, hhandle⟩ := handle_of_kept { (c.prepareTick l).issued with
    requests := (c.prepareTick l).issued.requests.finishAll ended
    flights := [] } hkept
  rw [wake_of_running ((congrArg stopped hhandle).trans hrunning), hhandle, horigin]
  exact ⟨rfl, rfl, rfl, rfl, rfl, hresources, getD_countAll c.counts c.setup.resources, fetched,
    failed, hsum.trans hlength, rfl⟩

/-- When a tick is due, its poll begins and is over at once. -/
theorem Quiet.tick_arrive (h : c.Quiet) (hloop : c.loop = some l) (hdue : l.nextTick ≤ c.now) :
    Beat c c.tick.arrive l := by
  have horderly : c.tick.Orderly := h.orderly.act .tick
  have htick : c.tick = (c.prepareTick l).beginPoll (.tick l.number) := by
    unfold tick
    rw [hloop]
    simp only [Nat.not_lt.mpr hdue, h.running, if_false, Bool.false_eq_true]
  have hclear : (c.prepareTick l).obstacle? = none := h.obstacle?
  have hflights : (c.prepareTick l).issued.flights = [] := h.flights
  have hprompt : (c.prepareTick l).Prompt := h.prompt
  rw [htick, beginPoll_of_clear hclear] at horderly ⊢
  let f : Flight δ := ⟨.tick l.number, ((c.prepareTick l).issueFetches c.setup.resources).2⟩
  have hentries : f.entries = c.nextEntries := entries_issueFetches (c.prepareTick l) _
  dsimp only at horderly ⊢
  split at horderly
  · next hactive =>
    rw [if_pos hactive]
    have hone : (c.prepareTick l).flights ++ [f] = [f] := congrArg (· ++ [f]) hflights
    have hdue : ∀ g ∈ f.fetches, g.due ≤ c.now := fun g hg =>
      Nat.le_of_eq (hprompt.issueFetches (fun _ hr => hr) g hg).1
    obtain ⟨f', horigin, hsame, harrive⟩ := horderly.arrive_of_due hone hdue
    rw [harrive]
    exact beat_of_handle h.running horigin (hsame.trans hentries) h.prompt f.awaited
  · next hactive =>
    -- with no resources the poll is over before anything else can happen
    have hover : ((c.prepareTick l).issued.handle f).flights = [] := hflights
    have hbeat := beat_of_handle (f := f) h.running rfl hentries h.prompt []
    rw [← hflights] at hbeat
    rw [if_neg hactive]
    exact (arrive_of_none hover).symm ▸ hbeat

/-- All that is due at one moment is one poll of a loop. -/
theorem Quiet.settle (h : c.Quiet) (hloop : c.loop = some l) (hdue : l.nextTick ≤ c.now) :
    Beat c c.settle l := by
  have hheard : c.arrive = { c with halt := c.wake.halt } :=
    (arrive_of_none h.flights).trans (wake_of_running h.running)
  have hquiet : Quiet { c with halt := c.wake.halt } :=
    ⟨⟨h.orderly.coherent, h.orderly.active, h.orderly.idle⟩, h.flights, h.running, h.visible,
      h.prompt⟩
  have hbeat := hquiet.tick_arrive hloop hdue
  rw [Controller.settle, hheard]
  exact ⟨hbeat.setup, hbeat.visible, hbeat.stopped, hbeat.flights, hbeat.loop, hbeat.resources,
    hbeat.fetched, hbeat.history⟩

/-- After a poll that took no time, the next may take place. -/
theorem Beat.quiet (h : Beat c d l) (hquiet : c.Quiet) (horderly : d.Orderly) : d.Quiet where
  orderly := horderly
  flights := h.flights
  running := h.stopped.trans hquiet.running
  visible := by
    rw [isVisible, h.setup, h.visible]
    exact hquiet.visible
  prompt := by
    refine hquiet.prompt.of_le h.setup fun r => ?_
    rw [h.fetched]
    exact Nat.le_add_right ..

/-! ## Tick after tick -/

/-- A loop that was started in one state has polled a number of times in another, without a gap. -/
structure Beats (b : Controller δ) (interval polls : Nat) (c : Controller δ) : Prop where
  quiet : c.Quiet
  setup : c.setup = b.setup
  loop : c.loop = some ⟨b.channels.length, interval, b.now + polls * interval⟩
  resources : c.requests.resources =
    b.requests.resources ++ (List.replicate polls b.setup.resources).flatten
  fetched : ∀ r, c.fetched r = b.fetched r + polls * b.setup.resources.count r
  history : ∃ counts : List (Nat × Nat), counts.length = polls ∧
    (∀ n ∈ counts, n.1 + n.2 = b.setup.resources.length) ∧
    c.history = b.history ++ counts.map fun n => (.tick b.channels.length, .completed n.1 n.2)

section

variable {interval polls : Nat}

theorem Beats.pass (h : Beats b interval polls c) (ms : Nat) :
    Beats b interval polls (c.act (.pass ms)) where
  quiet := ⟨h.quiet.orderly.act _, h.quiet.flights, h.quiet.running, h.quiet.visible,
    h.quiet.prompt⟩
  setup := h.setup
  loop := h.loop
  resources := h.resources
  fetched := h.fetched
  history := h.history

/-- When the next tick is due, there is one poll more. -/
theorem Beats.settle (h : Beats b interval polls c) (hnow : c.now = b.now + polls * interval) :
    Beats b interval (polls + 1) c.settle := by
  obtain ⟨moves, _, hmoves⟩ := settle_leads c
  have hbeat := h.quiet.settle h.loop (Nat.le_of_eq hnow.symm)
  obtain ⟨counts, hlength, hsum, hhistory⟩ := h.history
  obtain ⟨fetched, failed, hnew, hone⟩ := hbeat.history
  refine ⟨hbeat.quiet h.quiet (hmoves ▸ h.quiet.orderly.run moves), hbeat.setup.trans h.setup, ?_,
    ?_, fun r => ?_, counts ++ [(fetched, failed)], ?_, ?_, ?_⟩
  · rw [hbeat.loop, hnow, Nat.add_assoc, ← Nat.succ_mul]
  · rw [hbeat.resources, h.resources, h.setup, List.replicate_succ', List.flatten_append,
      List.flatten_singleton, List.append_assoc]
  · rw [hbeat.fetched, h.fetched, h.setup, Nat.add_assoc, ← Nat.succ_mul]
  · rw [List.length_append, hlength]
    rfl
  · intro n hn
    rcases List.mem_append.mp hn with hn | hn
    · exact hsum n hn
    · rw [List.mem_singleton.mp hn]
      exact h.setup ▸ hnew
  · rw [hone, hhistory, List.map_append, List.append_assoc]
    rfl

/-- While a loop beats, nothing but its next tick is to come. -/
theorem Beats.nextDue? (h : Beats b interval polls c) (time : Nat) :
    c.nextDue? time = if c.now < b.now + polls * interval ∧ b.now + polls * interval ≤ time
      then some (b.now + polls * interval) else none := by
  unfold Controller.nextDue? dueTimes
  rw [h.quiet.flights, h.loop]
  show (List.filter _ [b.now + polls * interval]).min? = _
  by_cases hdue : c.now < b.now + polls * interval ∧ b.now + polls * interval ≤ time
  · rw [if_pos hdue, List.filter_cons_of_pos (by simpa using hdue)]
    rfl
  · rw [if_neg hdue, List.filter_cons_of_neg (by simpa using hdue)]
    rfl

/-- A loop has polled as often as it is to: its next tick is the first that has not yet come. -/
structure OnTime (b : Controller δ) (interval polls : Nat) (c : Controller δ) : Prop
    extends Beats b interval polls c where
  early : c.now < b.now + polls * interval
  soon : b.now + polls * interval ≤ c.now + interval

theorem OnTime.interval_pos (h : OnTime b interval polls c) : 0 < interval := by
  have hearly := h.early
  have hsoon := h.soon
  omega

/-- Waiting keeps a loop on time. -/
theorem OnTime.waitUntil (h : OnTime b interval polls c) (time : Nat) (hlater : c.now ≤ time) :
    (c.waitUntil time).now = time ∧ ∃ polls, OnTime b interval polls (c.waitUntil time) := by
  fun_induction Controller.waitUntil c time generalizing polls with
  | case1 c t hnext ih =>
    rw [h.nextDue?] at hnext
    obtain ⟨⟨_, htime⟩, heq⟩ := Option.ite_none_right_eq_some.mp hnext
    obtain rfl := Option.some.inj heq
    -- the wait up to the tick brings the loop to its time, and the tick brings one poll
    have hnow : (c.act (.pass (b.now + polls * interval - c.now))).now = b.now + polls * interval :=
      (now_act ..).trans (Nat.add_sub_of_le (Nat.le_of_lt h.early))
    have hnext := (h.toBeats.pass _).settle hnow
    have hinterval := h.interval_pos
    refine ih ⟨hnext, ?_, ?_⟩ ?_ <;> rw [now_settle, hnow]
    · rw [Nat.succ_mul]
      omega
    · rw [Nat.succ_mul]
      omega
    · exact htime
  | case2 c hnone =>
    have hnow : (c.act (.pass (time - c.now))).now = time :=
      (now_act ..).trans (Nat.add_sub_of_le hlater)
    have hearly : time < b.now + polls * interval := by
      -- a tick up to that time would be due after now
      rw [h.nextDue?] at hnone
      simpa [h.early] using hnone
    refine ⟨hnow, polls, h.toBeats.pass _, ?_, ?_⟩ <;> rw [hnow]
    · exact hearly
    · exact Nat.le_trans h.soon (Nat.add_le_add_right hlater interval)

/-- So does a wait that is cut into several. -/
theorem OnTime.advances (h : OnTime b interval polls c) (waits : List Nat) :
    let d := (waits.map Step.advance).foldl take c
    d.now = c.now + waits.sum ∧ ∃ polls, OnTime b interval polls d := by
  induction waits generalizing c polls with
  | nil => exact ⟨rfl, polls, h⟩
  | cons ms waits ih =>
    obtain ⟨hnow, polls, hnext⟩ := h.waitUntil (c.now + ms) (Nat.le_add_right ..)
    obtain ⟨hend, honTime⟩ := ih hnext
    refine ⟨?_, honTime⟩
    rw [List.sum_cons, ← Nat.add_assoc, ← hnow]
    exact hend

end

/-! ## The start -/

theorem length_endLoop (c : Controller δ) : c.endLoop.channels.length = c.channels.length := by
  unfold endLoop
  split
  · exact List.length_modify ..
  · rfl

theorem openLoop_frame (c : Controller δ) (interval : Nat) :
    c.openLoop interval = { c with
      stopped := false
      loop := some ⟨c.channels.length, max interval 1, c.now⟩
      channels := (c.openLoop interval).channels } := by
  unfold openLoop
  dsimp only
  rw [length_endLoop, endLoop_frame]

theorem now_start (c : Controller δ) (interval : Nat) : (c.start interval).now = c.now :=
  (now_settle _).trans (now_act c (.start interval))

/-- A loop that starts polls at once. -/
theorem Orderly.start (h : c.Orderly) (hidle : c.requests.activeCount = 0)
    (hvisible : c.isVisible = true) (hprompt : c.Prompt) (interval : Nat) :
    OnTime c (max interval 1) 1 (c.start interval) := by
  have horderly := h.openLoop interval
  have hfirst : Beats c (max interval 1) 0 (c.openLoop interval) := by
    rw [openLoop_frame] at horderly ⊢
    refine ⟨⟨horderly, h.flights_eq_nil hidle, rfl, hvisible, hprompt⟩, rfl, ?_, ?_, ?_, [], rfl, ?_,
      ?_⟩
    · rw [Nat.zero_mul, Nat.add_zero]
    · exact (List.append_nil _).symm
    · intro r
      rw [Nat.zero_mul, Nat.add_zero]
      rfl
    · exact fun _ hn => nomatch hn
    · exact (List.append_nil _).symm
  refine ⟨hfirst.settle ?_, ?_, ?_⟩
  · rw [Nat.zero_mul]
    exact now_act c (.start interval)
  · rw [now_start, Nat.one_mul]
    omega
  · have hsoon : c.now + 1 * max interval 1 = (c.start interval).now + max interval 1 := by
      rw [now_start, Nat.one_mul]
    exact Nat.le_of_eq hsoon

/-- A loop that is on time has polled once at its start and once after every interval since. -/
theorem OnTime.polls_eq {interval polls elapsed : Nat} (h : OnTime b interval polls c)
    (hnow : c.now = b.now + elapsed) : polls = elapsed / interval + 1 := by
  have hearly := h.early
  have hsoon := h.soon
  rw [hnow] at hearly hsoon
  cases polls with
  | zero =>
    rw [Nat.zero_mul] at hearly
    omega
  | succ polls =>
    rw [Nat.succ_mul] at hearly hsoon
    rw [Nat.div_eq_of_lt_le (k := polls)]
    · omega
    · rw [Nat.succ_mul]
      omega

theorem told_ticks (redirect : String) (loop : Nat) (counts : List (Nat × Nat)) :
    told redirect loop (counts.map fun n => (.tick loop, .completed n.1 n.2)) =
      counts.map fun n => .refreshed n.1 n.2 := by
  unfold told
  rw [List.filterMap_map, ← List.filterMap_eq_map]
  exact List.filterMap_congr fun n _ => if_pos rfl

/-- The receiver of a loop that polls without a gap is told of all its polls. -/
theorem Beats.received_eq {interval polls : Nat} (h : Beats b interval polls c)
    (hbefore : (Tasks.of b).Delivers) (hdelivers : (Tasks.of c).Delivers) (counts : List (Nat × Nat))
    (hhistory : c.history =
      b.history ++ counts.map fun n => (.tick b.channels.length, .completed n.1 n.2)) :
    c.received = counts.map fun n => .refreshed n.1 n.2 := by
  have hnumber : b.channels.length + 1 = c.channels.length := hdelivers.number_eq h.loop
  have hnew : told c.setup.redirect b.channels.length b.history = [] := by
    refine told_eq_nil fun hmem => Nat.lt_irrefl b.channels.length ?_
    exact hbefore.delivered.known _ (List.mem_append_right _ hmem)
  have hreceived : c.received = c.lastTold := hdelivers.received_eq
  rw [hreceived, lastTold, ← hnumber, Nat.add_sub_cancel, hhistory]
  refine List.filterMap_append.trans ?_
  refine (congrArg₂ (· ++ ·) hnew (told_ticks _ _ counts)).trans (List.nil_append _)

/-- **A loop polls at its start and after every interval.** Let no request be active, whatever
happened before, and the host be visible, and let fetches be answered at once from now on and find
nothing gone. Then a loop that is started goes on however the time is cut into waits. It polls at
once and at every multiple of its interval, fetches each entry of the resources with every poll, and
tells its receiver of each. -/
theorem polls_at_every_interval (setup : Setup δ) (visible : Bool) (moves : List Move)
    (interval : Nat) (waits : List Nat) :
    let c := (initial setup visible).run moves
    let d := (waits.map Step.advance).foldl take (c.take (.start interval))
    let polls := waits.sum / max interval 1 + 1
    c.requests.activeCount = 0 → c.isVisible = true → c.Prompt →
      d.isRunning = true ∧ d.stopped = false ∧ d.now = c.now + waits.sum ∧
      d.requests.resources =
        c.requests.resources ++ (List.replicate polls setup.resources).flatten ∧
      (∀ r, d.fetched r = c.fetched r + polls * setup.resources.count r) ∧
      ∃ counts : List (Nat × Nat), counts.length = polls ∧
        (∀ n ∈ counts, n.1 + n.2 = setup.resources.length) ∧
        d.history =
          c.history ++ counts.map (fun n => (.tick c.channels.length, .completed n.1 n.2)) ∧
        d.received = counts.map fun n => .refreshed n.1 n.2 := by
  intro c d polls hidle hvisible hprompt
  have hdelivers : (Tasks.of c).Delivers := (Tasks.delivers_initial setup visible).run_moves moves
  have horderly : c.Orderly := (orderly_initial setup visible).run moves
  have hsetup : c.setup = setup := setup_run _ moves
  have hstart : c.take (.start interval) = c.start interval := by
    have hbusy : c.busy = false := by
      rw [busy, horderly.flights_eq_nil hidle]
      rfl
    rw [take, hbusy]
    rfl
  obtain ⟨hnow, n, honTime⟩ := (horderly.start hidle hvisible hprompt interval).advances waits
  rw [← hstart] at hnow honTime
  have hnow : d.now = c.now + waits.sum := by
    rw [hnow, hstart, now_start]
  obtain rfl : n = polls := honTime.polls_eq hnow
  obtain ⟨later, _, hlater⟩ := session_leads c (.start interval :: waits.map .advance)
  have hafter : (Tasks.of d).Delivers := by
    rw [show d = c.run later from hlater]
    exact hdelivers.run_moves later
  obtain ⟨counts, hlength, hsum, hhistory⟩ := honTime.history
  have hresources := honTime.resources
  have hfetched := honTime.fetched
  rw [hsetup] at hresources hsum
  simp only [hsetup] at hfetched
  refine ⟨?_, honTime.quiet.running, hnow, hresources, hfetched, counts, hlength, hsum, hhistory,
    honTime.received_eq hdelivers hafter counts hhistory⟩
  rw [isRunning, honTime.loop]
  rfl

/-- A poll that somebody waited for found the resource gone before there was a loop, and the call to
a halt has been heard by none. Two seconds are cut into three waits. -/
theorem polls_at_every_interval_after_gone :
    let setup : Setup Nat := ⟨["a", "b", "a"], fun r count => ⟨0,
      if r = "b" ∧ count = 1 then .error (.notFound "gone")
      else if r = "b" then .error (.transient "busy") else .ok count⟩, "/models", true⟩
    let c := (initial setup true).run [.poll, .reply 0, .reply 1, .reply 2, .pass 50]
    let d := ([300, 900, 800].map Step.advance).foldl take (c.take (.start 1000))
    c.stopped = true ∧ c.halt = true ∧ d.isRunning = true ∧ d.stopped = false ∧ d.now = 2050 ∧
      d.requests.resources = (List.replicate 4 ["a", "b", "a"]).flatten ∧ d.received.length = 3 := by
  intro setup c d
  have hsetup : c.setup = setup := setup_run _ _
  have hfetched : c.fetched "b" = 1 := by decide
  have hbefore : c.now = 50 := by decide
  have hissued : c.requests.resources = ["a", "b", "a"] := by decide
  have hprompt : c.Prompt := by
    intro r _ count hcount
    rw [hsetup]
    refine ⟨rfl, ?_⟩
    show (if r = "b" ∧ count = 1 then _ else _ : Reply Nat).isGone = false
    split
    · next hgone =>
      obtain ⟨rfl, rfl⟩ := hgone
      rw [hfetched] at hcount
      exact absurd hcount (Nat.lt_irrefl 1)
    · split <;> rfl
  obtain ⟨hrunning, hgoes, hnow, hresources, _, counts, hlength, _, _, hreceived⟩ :=
    polls_at_every_interval setup true [.poll, .reply 0, .reply 1, .reply 2, .pass 50] 1000
      [300, 900, 800] (by decide) (by decide) hprompt
  rw [hbefore] at hnow
  rw [hissued] at hresources
  refine ⟨by decide, by decide, hrunning, hgoes, hnow, hresources, ?_⟩
  exact (congrArg List.length hreceived).trans ((List.length_map _).trans hlength)

end RunTable.Poll.Controller
