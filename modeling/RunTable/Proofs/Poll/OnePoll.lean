import RunTable.Proofs.Poll.Coherence

/-! # One poll at a time

A poll that is asked for takes off with one request for each resource if
polling goes on, the host is visible and no request is active; otherwise it is
skipped and leaves nothing but its answer. All other moves issue nothing. So
requests and fetches are counted by the polls that were not skipped.

Here a reply and what it leads to need not be one move: between the last reply
of a poll and the moment when all its replies are dealt with, anything else may
happen. Only the guard and the requests that it lets through belong together. -/

namespace RunTable.Poll

variable {δ : Type}

/-- A whole move, or half of one: a reply that comes, or a poll that is dealt with. -/
inductive Piece where
  | whole (m : Move)
  | receive (request : Nat)
  | land (place : Nat)
  deriving DecidableEq

namespace Controller

variable {c : Controller δ} {m : Move} {origin : Origin}

def actPiece (c : Controller δ) : Piece → Controller δ
  | .whole m => c.act m
  | .receive request => c.receive request
  | .land place => c.land place

def runPieces (c : Controller δ) (pieces : List Piece) : Controller δ := pieces.foldl actPiece c

/-- Who asks for a poll with a piece, if anybody does. -/
def asksPiece (c : Controller δ) : Piece → Option Origin
  | .whole m => c.asks m
  | .receive _ | .land _ => none

/-- How many polls are asked for in a run. -/
def asked (c : Controller δ) : List Piece → Nat
  | [] => 0
  | p :: pieces => (c.asksPiece p).toList.length + (c.actPiece p).asked pieces

/-- How many polls were skipped. -/
def skips (c : Controller δ) : Nat := c.history.countP fun e => e.2 matches .skipped _

/-- A request for each resource is issued. -/
structure Issues (c d : Controller δ) : Prop where
  records : d.requests.records = c.requests.records ++ c.setup.resources.map (⟨·, true⟩)
  fetched : ∀ r, d.fetched r = c.fetched r + c.setup.resources.count r
  skips : d.skips = c.skips

/-- A poll is skipped, and leaves nothing but its answer. -/
structure Skipped (c d : Controller δ) (origin : Origin) (reason : SkipReason) : Prop where
  history : d.history = c.history ++ [(origin, .skipped reason)]
  requests : d.requests = c.requests
  counts : d.counts = c.counts
  cache : d.cache = c.cache
  channels : d.channels = c.channels
  flights : d.flights = c.flights

/-- What polls leave on record when they begin or are skipped. -/
structure Ledger where
  /-- The resources of all requests. -/
  resources : List String
  counts : KeyMap Nat
  skips : Nat

def ledger (c : Controller δ) : Ledger := ⟨c.requests.resources, c.counts, c.skips⟩

/-! ## Polls that are asked for -/

theorem obstacle?_prepared (c : Controller δ) (m : Move) :
    (c.prepared m).obstacle? = c.obstacle? := by
  rw [prepared_eq]
  rfl

theorem skips_conclude (c : Controller δ) (origin : Origin) (outcome : Outcome) :
    (c.conclude origin outcome).skips =
      c.skips + if outcome matches .skipped _ then 1 else 0 := by
  show (c.history ++ [(origin, outcome)]).countP _ = _
  rw [List.countP_append, List.countP_singleton]
  rfl

theorem leave_share (ch : Channel) : ch.share.leave none = ch := by
  simp [Channel.share, Channel.leave]

theorem issues_act (hasks : c.asks m = some origin) (hclear : c.obstacle? = none) :
    Issues c (c.act m) := by
  rw [act_of_asks hasks]
  have hprepared := prepared_eq c m
  generalize c.prepared m = d at hprepared
  have hobstacle : d.obstacle? = none := by rw [hprepared]; exact hclear
  rcases beginPoll_cases d origin with ⟨_, hsome, _⟩ | ⟨_, hnil, heq⟩ | ⟨_, f, _, _, _, heq⟩
  · rw [hobstacle] at hsome
    cases hsome
  · have hnil : c.setup.resources = [] := by rw [hprepared] at hnil; exact hnil
    rw [heq, hprepared]
    refine ⟨?_, fun r => ?_, skips_conclude _ origin (.completed 0 0)⟩
    · rw [hnil]
      exact (List.append_nil _).symm
    · rw [hnil]
      rfl
  · rw [heq, hprepared]
    exact ⟨rfl, fun r => getD_countAll c.counts c.setup.resources r, rfl⟩

theorem skipped_act {reason : SkipReason} (hasks : c.asks m = some origin)
    (hobstacle : c.obstacle? = some reason) : Skipped c (c.act m) origin reason := by
  have heq : c.act m = (c.prepared m).conclude origin (.skipped reason) := by
    rw [act_of_asks hasks]
    exact beginPoll_of_obstacle ((obstacle?_prepared c m).trans hobstacle) origin
  have hchannels : (c.act m).channels = c.channels := by
    rw [heq]
    cases m with
    | poll | spawn =>
      obtain rfl := Option.some.inj hasks
      rfl
    | tick =>
      rcases tick_cases c with ⟨hnone, _⟩ | ⟨hnone, _⟩ | ⟨l, hloop, _, hsome, _⟩
      · rw [hnone] at hasks; cases hasks
      · rw [hnone] at hasks; cases hasks
      · obtain rfl := Option.some.inj (hsome.symm.trans hasks)
        show ((c.loop.elim c c.prepareTick).channels.modify l.number _) = _
        rw [hloop]
        show (c.channels.modify l.number Channel.share).modify l.number (·.leave none) = _
        rw [List.modify_modify_eq]
        exact (congrArg _ (funext leave_share)).trans (List.modify_id ..)
    | reply | wake | abort | setVisible | start | stop | evict | pass => cases hasks
  have hprepared := prepared_eq c m
  generalize c.prepared m = d at heq hprepared
  rw [hprepared] at heq
  refine ⟨?_, ?_, ?_, ?_, hchannels, ?_⟩ <;> rw [heq] <;> rfl

/-! ## All other moves -/

theorem ledger_handle (c : Controller δ) (f : Flight δ) : (c.handle f).ledger = c.ledger := by
  have hskips : (c.handle f).skips = c.skips := by
    refine (skips_conclude _ _ _).trans ?_
    rcases outcomeOf_cases f.fetches with ⟨resource, heq⟩ | ⟨fetched, failed, heq⟩ <;> rw [heq] <;> rfl
  exact congrArg (Ledger.mk _ _) hskips

theorem ledger_receive (c : Controller δ) (n : Nat) : (c.receive n).ledger = c.ledger := by
  unfold receive
  split
  · exact congrArg (Ledger.mk · _ _) (Requests.resources_finish _ _)
  · rfl

theorem ledger_land (c : Controller δ) (place : Nat) : (c.land place).ledger = c.ledger := by
  unfold land
  split
  · split
    · rfl
    · exact ledger_handle _ _
  · rfl

theorem ledger_reply (c : Controller δ) (n : Nat) : (c.reply n).ledger = c.ledger :=
  reply_preserves (P := fun d => d.ledger = c.ledger) rfl n
    (fun d hd => (ledger_receive d n).trans hd) fun d place hd => (ledger_land d place).trans hd

theorem ledger_endLoop (c : Controller δ) : c.endLoop.ledger = c.ledger := by
  unfold endLoop
  split <;> rfl

theorem ledger_wake (c : Controller δ) : c.wake.ledger = c.ledger :=
  wake_preserves (P := fun d => d.ledger = c.ledger) rfl (fun _ hd => hd)
    fun d hd => (ledger_endLoop d).trans hd

/-- A move that asks for no poll issues nothing. -/
theorem ledger_act (h : c.asks m = none) : (c.act m).ledger = c.ledger := by
  cases m with
  | poll | spawn => cases h
  | tick =>
    rcases tick_cases c with ⟨_, heq⟩ | ⟨_, _, heq⟩ | ⟨_, _, _, hsome, _⟩
    · exact congrArg ledger heq
    · exact (congrArg ledger heq).trans (ledger_endLoop c)
    · rw [hsome] at h
      cases h
  | reply request => exact ledger_reply c request
  | wake => exact ledger_wake c
  | abort => exact congrArg (Ledger.mk · _ _) (Requests.resources_finishAll _ _)
  | start | stop => exact ledger_endLoop c
  | setVisible | evict | pass => rfl

theorem ledger_actPiece {p : Piece} (h : c.asksPiece p = none) :
    (c.actPiece p).ledger = c.ledger := by
  cases p with
  | whole m => exact ledger_act h
  | receive request => exact ledger_receive c request
  | land place => exact ledger_land c place

/-! ## Runs -/

theorem setup_actPiece (c : Controller δ) (p : Piece) : (c.actPiece p).setup = c.setup := by
  cases p with
  | whole m => exact setup_act c m
  | receive request =>
    show (c.receive request).setup = _
    rw [receive_frame]
  | land place =>
    show (c.land place).setup = _
    rw [land_frame]

theorem Coherent.actPiece (h : c.Coherent) (p : Piece) : (c.actPiece p).Coherent := by
  cases p with
  | whole m => exact h.act m
  | receive request => exact h.receive request
  | land place => exact h.land place

/-- What each piece preserves, a run preserves. -/
theorem runPieces_induction {P : Controller δ → Prop} (h : P c) (pieces : List Piece)
    (step : ∀ d p, P d → P (d.actPiece p)) : P (c.runPieces pieces) := by
  induction pieces generalizing c with
  | nil => exact h
  | cons p pieces ih => exact ih (step c p h)

theorem Coherent.runPieces (h : c.Coherent) (pieces : List Piece) :
    (c.runPieces pieces).Coherent :=
  runPieces_induction h pieces fun _ p hd => hd.actPiece p

theorem setup_runPieces (c : Controller δ) (pieces : List Piece) :
    (c.runPieces pieces).setup = c.setup :=
  runPieces_induction (P := fun d => d.setup = c.setup) rfl pieces
    fun d p hd => (setup_actPiece d p).trans hd

/-- Requests and fetches are counted by the polls that were asked for and not skipped. -/
def Tallied (c : Controller δ) (asked : Nat) : Prop :=
  ∃ n, asked = n + c.skips ∧ c.requests.size = n * c.setup.resources.length ∧
    ∀ r, c.fetched r = n * c.setup.resources.count r

theorem Tallied.actPiece {asked : Nat} (h : c.Tallied asked) (p : Piece) :
    (c.actPiece p).Tallied (asked + (c.asksPiece p).toList.length) := by
  obtain ⟨n, hasked, hsize, hfetched⟩ := h
  have hsetup := setup_actPiece c p
  cases hasks : c.asksPiece p with
  | none =>
    obtain ⟨hresources, hcounts, hskips⟩ := Ledger.mk.inj (ledger_actPiece hasks)
    refine ⟨n, hskips ▸ hasked, ?_, fun r => ?_⟩
    · rw [hsetup, Requests.size_eq, hresources, ← Requests.size_eq]
      exact hsize
    · rw [hsetup, fetched, hcounts]
      exact hfetched r
  | some origin =>
    obtain ⟨m, rfl⟩ : ∃ m, p = .whole m := by
      cases p with
      | whole m => exact ⟨m, rfl⟩
      | receive | land => cases hasks
    cases hobstacle : c.obstacle? with
    | some reason =>
      have hskipped := skipped_act hasks hobstacle
      refine ⟨n, ?_, ?_, fun r => ?_⟩
      · have hskips : ((c.act m).skips) = c.skips + 1 := by
          rw [skips, hskipped.history, List.countP_append]
          rfl
        show asked + 1 = n + (c.act m).skips
        omega
      · rw [hsetup]
        exact (congrArg Requests.size hskipped.requests).trans hsize
      · rw [hsetup]
        exact (congrArg (fun counts => (counts.get? r).getD 0) hskipped.counts).trans (hfetched r)
    | none =>
      have hissues := issues_act hasks hobstacle
      refine ⟨n + 1, ?_, ?_, fun r => ?_⟩
      · show asked + 1 = n + 1 + (c.act m).skips
        rw [hissues.skips]
        omega
      · show (c.act m).requests.records.length = (n + 1) * _
        have hsize : c.requests.records.length = n * c.setup.resources.length := hsize
        rw [hsetup, hissues.records, List.length_append, List.length_map, Nat.succ_mul]
        omega
      · rw [hsetup, Nat.succ_mul, ← hfetched r]
        exact hissues.fetched r

theorem Tallied.runPieces {asked : Nat} (h : c.Tallied asked) (pieces : List Piece) :
    (c.runPieces pieces).Tallied (asked + c.asked pieces) := by
  induction pieces generalizing c asked with
  | nil => exact h
  | cons p pieces ih =>
    have hnext := ih (h.actPiece p)
    rw [Nat.add_assoc] at hnext
    exact hnext

/-- **Polls do not overlap.** Whatever the run, a poll that is asked for next is decided by the
guard alone, nothing else issues requests, the active requests are those of one poll, and requests
and fetches are as many as the polls that were not skipped make. -/
theorem one_poll_at_a_time (setup : Setup δ) (visible : Bool) (pieces : List Piece) :
    let start := initial setup visible
    let c := start.runPieces pieces
    (∀ p origin, c.asksPiece p = some origin →
      (c.stopped = false ∧ c.isVisible = true ∧ c.requests.activeCount = 0 →
        Issues c (c.actPiece p)) ∧
      (c.stopped = true → Skipped c (c.actPiece p) origin .stopped) ∧
      (c.stopped = false ∧ c.isVisible = false → Skipped c (c.actPiece p) origin .hidden) ∧
      (c.stopped = false ∧ c.isVisible = true ∧ 0 < c.requests.activeCount →
        Skipped c (c.actPiece p) origin .inFlight)) ∧
    (∀ p, c.asksPiece p = none →
      (c.actPiece p).requests.resources = c.requests.resources ∧
      (c.actPiece p).counts = c.counts) ∧
    (∀ n, c.requests.isActive n = true ↔ n ∈ awaited c.flights) ∧
    c.flights.countP Flight.isActive ≤ 1 ∧
    c.requests.activeCount ≤ setup.resources.length ∧
    ∃ n, start.asked pieces = n + c.skips ∧
      c.requests.size = n * setup.resources.length ∧
      ∀ r, c.fetched r = n * setup.resources.count r := by
  intro start c
  have hsetup : c.setup = setup := setup_runPieces start pieces
  have hcoherent : c.Coherent := (coherent_initial setup visible).runPieces pieces
  have hstart : start.Tallied 0 := ⟨0, rfl, (Nat.zero_mul _).symm, fun r => (Nat.zero_mul _).symm⟩
  refine ⟨?_, ?_, hcoherent.active_iff, hcoherent.one, ?_, ?_⟩
  · intro p origin hasks
    obtain ⟨m, rfl⟩ : ∃ m, p = .whole m := by
      cases p with
      | whole m => exact ⟨m, rfl⟩
      | receive | land => cases hasks
    exact ⟨fun h => issues_act hasks (obstacle?_eq_none.mpr h),
      fun h => skipped_act hasks (obstacle?_eq_some.mpr h),
      fun h => skipped_act hasks (obstacle?_eq_some.mpr h),
      fun h => skipped_act hasks (obstacle?_eq_some.mpr h)⟩
  · intro p hasks
    obtain ⟨hresources, hcounts, _⟩ := Ledger.mk.inj (ledger_actPiece hasks)
    exact ⟨hresources, hcounts⟩
  · exact hsetup ▸ hcoherent.activeCount_le
  · obtain ⟨n, hasked, hsize, hfetched⟩ := hstart.runPieces pieces
    rw [Nat.zero_add] at hasked
    rw [show (start.runPieces pieces).setup = setup from hsetup] at hsize hfetched
    exact ⟨n, hasked, hsize, hfetched⟩

/-- A second poll of a list with a repetition begins before the first one, whose replies have come,
is dealt with; a try before that was skipped. Two polls make two requests each. -/
theorem one_poll_at_a_time_repetition :
    let start : Controller Nat := initial ⟨["a", "a"], fun _ _ => ⟨5, .ok 1⟩, "/models", true⟩ true
    let pieces : List Piece := [.whole .poll, .whole .spawn, .whole (.pass 5), .receive 0,
      .receive 1, .whole .spawn, .land 0]
    let c := start.runPieces pieces
    start.asked pieces = 3 ∧ c.skips = 1 ∧ c.requests.activeCount = 2 ∧ c.requests.size = 4 ∧
      c.fetched "a" = 4 := by
  intro start pieces c
  have hasked : start.asked pieces = 3 := by decide
  have hskips : c.skips = 1 := by decide
  obtain ⟨n, hn, hsize, hfetched⟩ := (one_poll_at_a_time start.setup true pieces).2.2.2.2.2
  have htwo : n = 2 := by
    have hn : start.asked pieces = n + c.skips := hn
    omega
  subst htwo
  exact ⟨hasked, hskips, by decide, hsize, hfetched "a"⟩

end Controller

end RunTable.Poll
