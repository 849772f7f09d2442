import RunTable.Poll.Controller
import RunTable.Proofs.Poll.RequestRecord

/-! # What a move can do

A move either asks for a poll or it does not. If it does, the guard decides
whether the poll is skipped, which leaves a trace in the history only, or takes
off with a new request for each resource (`Controller.beginPoll_cases`). The
other moves issue nothing. -/

namespace RunTable.Poll

variable {δ : Type}

namespace Flight

variable {f : Flight δ}

theorem mem_awaited {n : Nat} : n ∈ f.awaited ↔ ∃ g ∈ f.fetches, g.awaited = true ∧ g.request = n := by
  simp [awaited, and_assoc]

theorem isActive_iff : f.isActive = true ↔ f.awaited ≠ [] := by
  simp [isActive, awaited]

theorem awaited_eq_nil (h : f.isActive = false) : f.awaited = [] := by
  by_cases hnil : f.awaited = []
  · exact hnil
  · rw [isActive_iff.mpr hnil] at h
    cases h

/-- The reply to a request ends the wait for this request alone. -/
theorem awaited_receive (f : Flight δ) (n : Nat) :
    (f.receive n).awaited = f.awaited.filter fun m => m ≠ n := by
  unfold receive awaited
  induction f.fetches with
  | nil => rfl
  | cons g rest ih =>
    obtain ⟨resource, request, due, reply, waits⟩ := g
    by_cases hn : request = n <;> cases waits <;> simp_all

/-- The reply to a request changes nothing in the fetches but what is awaited. -/
theorem map_receive {α : Type} (p : Fetch δ → α)
    (hp : ∀ (g : Fetch δ) (waits : Bool), p { g with awaited := waits } = p g)
    (f : Flight δ) (n : Nat) : (f.receive n).fetches.map p = f.fetches.map p := by
  unfold receive
  rw [List.map_map]
  refine List.map_congr_left fun g _ => ?_
  show p (if g.request = n then { g with awaited := false } else g) = p g
  split
  · exact hp g false
  · rfl

theorem resources_receive (f : Flight δ) (n : Nat) :
    (f.receive n).fetches.map (·.resource) = f.fetches.map (·.resource) :=
  map_receive (·.resource) (fun _ _ => rfl) f n

end Flight

/-- Fetches that have just been issued for some resources, with requests that
are numbered from a first number on. -/
structure NewFetches (fetches : List (Fetch δ)) (resources : List String) (first : Nat) : Prop where
  resource : fetches.map (·.resource) = resources
  request : fetches.map (·.request) = List.range' first resources.length
  awaited : ∀ f ∈ fetches, f.awaited = true

theorem NewFetches.awaited_eq {fetches : List (Fetch δ)} {resources : List String} {first : Nat}
    (h : NewFetches fetches resources first) (origin : Origin) :
    Flight.awaited ⟨origin, fetches⟩ = List.range' first resources.length := by
  show (fetches.filter (·.awaited)).map _ = _
  rw [List.filter_eq_self.mpr h.awaited]
  exact h.request

/-- How often resources have been fetched, after one more fetch of each in a list. -/
def countAll (counts : KeyMap Nat) (resources : List String) : KeyMap Nat :=
  resources.foldl (fun m r => m.insert r ((m.get? r).getD 0 + 1)) counts

theorem getD_countAll (counts : KeyMap Nat) (resources : List String) (r : String) :
    ((countAll counts resources).get? r).getD 0 = (counts.get? r).getD 0 + resources.count r := by
  induction resources generalizing counts with
  | nil => rfl
  | cons x rest ih =>
    show ((countAll (counts.insert x _) rest).get? r).getD 0 = _
    rw [ih, KeyMap.get?_insert, List.count_cons]
    by_cases h : r = x
    · subst h
      simp only [if_true, beq_self_eq_true, Option.getD_some]
      omega
    · simp [h, Ne.symm h]

namespace Controller

variable {c : Controller δ}

/-- How often a resource has been fetched. -/
def fetched (c : Controller δ) (resource : String) : Nat := (c.counts.get? resource).getD 0

/-! ## Issuing -/

theorem issueFetches_fst (c : Controller δ) (resources : List String) :
    (c.issueFetches resources).1 =
      { c with
        requests := c.requests.startAll resources
        counts := countAll c.counts resources } := by
  induction resources generalizing c with
  | nil =>
    rw [Requests.startAll_nil]
    rfl
  | cons r rest ih =>
    rw [Requests.startAll_cons]
    exact ih _

theorem newFetches_issueFetches (c : Controller δ) (resources : List String) :
    NewFetches (c.issueFetches resources).2 resources c.requests.size := by
  induction resources generalizing c with
  | nil => exact ⟨rfl, rfl, fun _ h => nomatch h⟩
  | cons r rest ih =>
    have hrest := ih (c.issueFetch r).1
    have hnext : (c.issueFetch r).1.requests.size = c.requests.size + 1 :=
      List.length_append.trans rfl
    rw [hnext] at hrest
    refine ⟨congrArg (r :: ·) hrest.resource, ?_, ?_⟩
    · refine (congrArg (c.requests.size :: ·) hrest.request).trans ?_
      rw [List.length_cons, List.range'_succ]
    · exact List.forall_mem_cons.mpr ⟨rfl, hrest.awaited⟩

/-- The controller with a new request on record for each of its resources. -/
def issued (c : Controller δ) : Controller δ :=
  { c with
    requests := c.requests.startAll c.setup.resources
    counts := countAll c.counts c.setup.resources }

/-- A poll that is dealt with was not skipped. -/
theorem outcomeOf_cases (fetches : List (Fetch δ)) :
    (∃ resource, outcomeOf fetches = .notFound resource) ∨
      ∃ fetched failed, outcomeOf fetches = .completed fetched failed := by
  unfold outcomeOf
  split
  · exact .inl ⟨_, rfl⟩
  · exact .inr ⟨_, _, rfl⟩

/-! ## The guard -/

theorem anyActive_iff : c.requests.anyActive = true ↔ 0 < c.requests.activeCount :=
  decide_eq_true_iff

/-- What stands in the way of a poll: that polling is stopped, else that the host is hidden, else
that a request is active. -/
theorem obstacle?_eq_some {reason : SkipReason} : c.obstacle? = some reason ↔
    match reason with
    | .stopped => c.stopped = true
    | .hidden => c.stopped = false ∧ c.isVisible = false
    | .inFlight => c.stopped = false ∧ c.isVisible = true ∧ 0 < c.requests.activeCount := by
  unfold obstacle?
  rw [← anyActive_iff]
  cases c.stopped <;> cases c.isVisible <;> cases c.requests.anyActive <;> cases reason <;> simp

theorem obstacle?_eq_none : c.obstacle? = none ↔
    c.stopped = false ∧ c.isVisible = true ∧ c.requests.activeCount = 0 := by
  unfold obstacle?
  have hidle : c.requests.activeCount = 0 ↔ c.requests.anyActive = false := by
    rw [← Bool.not_eq_true, anyActive_iff]
    omega
  rw [hidle]
  cases c.stopped <;> cases c.isVisible <;> cases c.requests.anyActive <;> simp

theorem beginPoll_of_obstacle {reason : SkipReason} (h : c.obstacle? = some reason)
    (origin : Origin) : c.beginPoll origin = c.conclude origin (.skipped reason) := by
  rw [beginPoll, h]

/-- A poll is skipped, or it is over at once because there is nothing to fetch, or it takes off. -/
theorem beginPoll_cases (c : Controller δ) (origin : Origin) :
    (∃ reason, c.obstacle? = some reason ∧
      c.beginPoll origin = c.conclude origin (.skipped reason)) ∨
    (c.obstacle? = none ∧ c.setup.resources = [] ∧
      c.beginPoll origin = c.conclude origin (.completed 0 0)) ∨
    (c.obstacle? = none ∧ ∃ f : Flight δ, f.origin = origin ∧ f.isActive = true ∧
      NewFetches f.fetches c.setup.resources c.requests.size ∧
      c.beginPoll origin = { c.issued with flights := c.flights ++ [f] }) := by
  cases h : c.obstacle? with
  | some reason => exact .inl ⟨reason, rfl, beginPoll_of_obstacle h origin⟩
  | none =>
    have hnew := newFetches_issueFetches c c.setup.resources
    have hissued : (c.issueFetches c.setup.resources).1 = c.issued := issueFetches_fst c _
    by_cases hnil : c.setup.resources = []
    · refine .inr (.inl ⟨rfl, hnil, ?_⟩)
      rw [beginPoll, h, hnil]
      simp [issueFetches, Flight.isActive, handle, outcomeOf]
    · let f : Flight δ := ⟨origin, (c.issueFetches c.setup.resources).2⟩
      have hactive : f.isActive = true := by
        rw [Flight.isActive_iff, hnew.awaited_eq]
        simpa using hnil
      refine .inr (.inr ⟨rfl, f, rfl, hactive, hnew, ?_⟩)
      rw [beginPoll, h]
      show (if f.isActive = true then _ else _) = _
      rw [if_pos hactive, hissued]
      rfl

/-! ## Who asks for a poll -/

/-- Who asks for a poll with a move, if anybody does. The tick of a loop asks when it is due and
polling goes on. -/
def asks (c : Controller δ) : Move → Option Origin
  | .poll => some .waiting
  | .spawn => some (.background c.spawned)
  | .tick => (c.loop.filter fun l => l.nextTick ≤ c.now && !c.stopped).map (.tick ·.number)
  | _ => none

/-- The state in which the guard of a poll finds the controller. -/
def prepared (c : Controller δ) : Move → Controller δ
  | .spawn => { c with spawned := c.spawned + 1 }
  | .tick => c.loop.elim c c.prepareTick
  | _ => c

theorem tick_cases (c : Controller δ) :
    (c.asks .tick = none ∧ c.tick = c) ∨
    (c.asks .tick = none ∧ c.stopped = true ∧ c.tick = c.endLoop) ∨
    ∃ l, c.loop = some l ∧ c.stopped = false ∧ c.asks .tick = some (.tick l.number) ∧
      c.tick = (c.prepareTick l).beginPoll (.tick l.number) := by
  unfold tick asks
  cases hloop : c.loop with
  | none => exact .inl ⟨rfl, rfl⟩
  | some l =>
    by_cases hdue : c.now < l.nextTick
    · exact .inl ⟨by simp [Option.filter, Nat.not_le_of_lt hdue], by simp [hdue]⟩
    · cases hstopped : c.stopped with
      | true => exact .inr (.inl ⟨by simp [Option.filter], rfl, by simp [hdue]⟩)
      | false =>
        have hle : l.nextTick ≤ c.now := Nat.le_of_not_lt hdue
        exact .inr (.inr ⟨l, rfl, rfl, by simp [Option.filter, hle], by simp [hdue]⟩)

theorem act_of_asks {m : Move} {origin : Origin} (h : c.asks m = some origin) :
    c.act m = (c.prepared m).beginPoll origin := by
  cases m with
  | poll | spawn =>
    obtain rfl := Option.some.inj h
    rfl
  | tick =>
    rcases tick_cases c with ⟨hnone, _⟩ | ⟨hnone, _⟩ | ⟨l, hloop, _, hasks, htick⟩
    · rw [hnone] at h; cases h
    · rw [hnone] at h; cases h
    · obtain rfl := Option.some.inj (hasks.symm.trans h)
      show c.tick = (c.loop.elim c c.prepareTick).beginPoll _
      rw [htick, hloop]
      rfl
  | reply | wake | abort | setVisible | start | stop | evict | pass => cases h

/-- Preparing a poll concerns the loop and its channel, and the numbers of background polls. -/
theorem prepared_eq (c : Controller δ) (m : Move) :
    c.prepared m = { c with
      loop := (c.prepared m).loop
      channels := (c.prepared m).channels
      spawned := (c.prepared m).spawned } := by
  cases m with
  | tick =>
    unfold prepared
    cases c.loop <;> rfl
  | poll | spawn | reply | wake | abort | setVisible | start | stop | evict | pass => rfl

/-- A reply is taken in, and then perhaps its poll is dealt with. -/
theorem reply_preserves {P : Controller δ → Prop} (h : P c) (n : Nat)
    (hreceive : ∀ d : Controller δ, P d → P (d.receive n))
    (hland : ∀ (d : Controller δ) (place : Nat), P d → P (d.land place)) : P (c.reply n) := by
  unfold reply
  dsimp only
  split
  · exact hland _ _ (hreceive c h)
  · exact hreceive c h

/-- When the loop hears the call to a halt, the call is over, and the loop may end. -/
theorem wake_preserves {P : Controller δ → Prop} (h : P c)
    (hheard : ∀ d : Controller δ, P d → P { d with halt := false })
    (hended : ∀ d : Controller δ, P d → P d.endLoop) : P c.wake := by
  unfold wake
  split
  · split
    · exact hended _ (hheard c h)
    · exact hheard c h
  · exact h

/-! ## What moves leave alone -/

theorem beginPoll_frame (c : Controller δ) (origin : Origin) :
    c.beginPoll origin = { c with
      requests := (c.beginPoll origin).requests
      counts := (c.beginPoll origin).counts
      flights := (c.beginPoll origin).flights
      channels := (c.beginPoll origin).channels
      history := (c.beginPoll origin).history } := by
  rcases beginPoll_cases c origin with ⟨_, _, heq⟩ | ⟨_, _, heq⟩ | ⟨_, _, _, _, _, heq⟩ <;>
    rw [heq] <;> rfl

theorem receive_frame (c : Controller δ) (n : Nat) :
    c.receive n = { c with
      requests := (c.receive n).requests
      flights := (c.receive n).flights } := by
  unfold receive
  split <;> rfl

theorem land_frame (c : Controller δ) (place : Nat) :
    c.land place = { c with
      stopped := (c.land place).stopped
      halt := (c.land place).halt
      cache := (c.land place).cache
      flights := (c.land place).flights
      channels := (c.land place).channels
      history := (c.land place).history } := by
  unfold land
  split
  · split <;> rfl
  · rfl

theorem reply_frame (c : Controller δ) (n : Nat) :
    c.reply n = { c with
      stopped := (c.reply n).stopped
      halt := (c.reply n).halt
      requests := (c.reply n).requests
      cache := (c.reply n).cache
      flights := (c.reply n).flights
      channels := (c.reply n).channels
      history := (c.reply n).history } := by
  unfold reply
  dsimp only
  have hreceive := receive_frame c n
  split
  · next place _ =>
    have hland := land_frame (c.receive n) place
    generalize (c.receive n).land place = d at hland
    rw [hland, hreceive]
  · rw [hreceive]

theorem endLoop_frame (c : Controller δ) :
    c.endLoop = { c with loop := none, channels := c.endLoop.channels } := by
  unfold endLoop
  split
  · rfl
  · next hloop => rw [← hloop]

theorem wake_frame (c : Controller δ) :
    c.wake = { c with
      halt := c.wake.halt
      loop := c.wake.loop
      channels := c.wake.channels } := by
  unfold wake
  split
  · split
    · rw [endLoop_frame]
    · rfl
  · rfl

theorem setup_beginPoll (c : Controller δ) (origin : Origin) :
    (c.beginPoll origin).setup = c.setup := by
  rw [beginPoll_frame]

theorem loop_beginPoll (c : Controller δ) (origin : Origin) :
    (c.beginPoll origin).loop = c.loop := by
  rw [beginPoll_frame]

theorem setup_reply (c : Controller δ) (n : Nat) : (c.reply n).setup = c.setup := by
  rw [reply_frame]

theorem loop_reply (c : Controller δ) (n : Nat) : (c.reply n).loop = c.loop := by
  rw [reply_frame]

theorem setup_endLoop (c : Controller δ) : c.endLoop.setup = c.setup := by
  rw [endLoop_frame]

theorem loop_endLoop (c : Controller δ) : c.endLoop.loop = none := by
  rw [endLoop_frame]

theorem setup_wake (c : Controller δ) : c.wake.setup = c.setup := by
  rw [wake_frame]

theorem setup_act (c : Controller δ) (m : Move) : (c.act m).setup = c.setup := by
  cases m with
  | poll | spawn => exact setup_beginPoll _ _
  | tick =>
    rcases tick_cases c with ⟨_, heq⟩ | ⟨_, _, heq⟩ | ⟨l, _, _, _, heq⟩
    · exact congrArg setup heq
    · exact (congrArg setup heq).trans (setup_endLoop c)
    · exact (congrArg setup heq).trans (setup_beginPoll (c.prepareTick l) _)
  | reply request => exact setup_reply c request
  | wake => exact setup_wake c
  | start | stop => exact setup_endLoop c
  | abort | setVisible | evict | pass => rfl

/-! ## Runs -/

theorem run_append (c : Controller δ) (first second : List Move) :
    c.run (first ++ second) = (c.run first).run second := List.foldl_append

/-- What each of some moves preserves, a run of them preserves. -/
theorem run_induction {P : Controller δ → Prop} {moves : List Move} (h : P c)
    (step : ∀ d, ∀ m ∈ moves, P d → P (d.act m)) : P (c.run moves) := by
  induction moves generalizing c with
  | nil => exact h
  | cons m moves ih =>
    have hm : P (c.act m) := step c m List.mem_cons_self h
    exact ih hm fun d m hm => step d m (List.mem_cons_of_mem _ hm)

theorem setup_run (c : Controller δ) (moves : List Move) : (c.run moves).setup = c.setup :=
  run_induction (P := fun d => d.setup = c.setup) rfl fun d m _ hd => (setup_act d m).trans hd

end Controller

end RunTable.Poll
