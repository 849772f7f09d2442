import RunTable.Proofs.Poll.FutureAnswers

/-! # Polls that are given up

Giving up a background poll ends the requests that it awaits and takes it away
from the polls under way; none of its replies has been dealt with by then. A
request that is over stays over (`isOver_runPieces`), so that a late reply finds
nobody who awaits it. What the replies would have been is lost with the poll
(`abort_of_replies`), and nobody asks for them again (`runPieces_withSource`). -/

namespace RunTable.Poll

variable {δ : Type}

namespace Controller

variable {c d : Controller δ} {n : Nat}

theorem requests_land (c : Controller δ) (place : Nat) : (c.land place).requests = c.requests := by
  rw [land_frame]

theorem requests_receive (c : Controller δ) (n : Nat) :
    ∃ ns, (c.receive n).requests = c.requests.finishAll ns := by
  unfold receive
  split
  · exact ⟨[n], rfl⟩
  · exact ⟨[], rfl⟩

/-- A piece finishes requests, unless it asks for a poll, which may begin some. -/
theorem requests_actPiece (c : Controller δ) (p : Piece) :
    (∃ ns, (c.actPiece p).requests = c.requests.finishAll ns) ∨
    (∃ origin, c.asksPiece p = some origin) ∧
      (c.actPiece p).requests = c.requests.startAll c.setup.resources := by
  cases p with
  | receive n => exact .inl (requests_receive c n)
  | land place => exact .inl ⟨[], requests_land c place⟩
  | whole m =>
    cases hasks : c.asks m with
    | some origin =>
      have hrequests : (c.prepared m).requests = c.requests := by rw [prepared_eq]
      have hsetup : (c.prepared m).setup = c.setup := by rw [prepared_eq]
      show (∃ ns, (c.act m).requests = _) ∨ (∃ o, c.asks m = some o) ∧ (c.act m).requests = _
      rw [act_of_asks hasks]
      rcases beginPoll_cases (c.prepared m) origin with ⟨_, _, heq⟩ | ⟨_, _, heq⟩ | ⟨_, f, _, _, _, heq⟩
      · exact .inl ⟨[], by rw [heq]; exact hrequests⟩
      · exact .inl ⟨[], by rw [heq]; exact hrequests⟩
      · refine .inr ⟨⟨origin, hasks⟩, ?_⟩
        rw [heq, ← hrequests, ← hsetup]
        rfl
    | none =>
      left
      cases m with
      | poll | spawn => cases hasks
      | tick =>
        refine ⟨[], ?_⟩
        show c.tick.requests = c.requests
        rcases tick_cases c with ⟨_, heq⟩ | ⟨_, _, heq⟩ | ⟨_, _, _, hsome, _⟩
        · rw [heq]
        · rw [heq, endLoop_frame]
        · rw [hsome] at hasks; cases hasks
      | reply n =>
        show ∃ ns, (c.reply n).requests = _
        unfold reply
        dsimp only
        split
        · rw [requests_land]
          exact requests_receive c n
        · exact requests_receive c n
      | wake =>
        refine ⟨[], ?_⟩
        show c.wake.requests = c.requests
        rw [wake_frame]
      | abort index => exact ⟨_, rfl⟩
      | start | stop =>
        refine ⟨[], ?_⟩
        show c.endLoop.requests = c.requests
        rw [endLoop_frame]
      | setVisible | evict | pass => exact ⟨[], rfl⟩

theorem isOver_runPieces (h : c.requests.IsOver n) (pieces : List Piece) :
    (c.runPieces pieces).requests.IsOver n := by
  refine runPieces_induction (P := fun d => d.requests.IsOver n) h pieces fun d p hd => ?_
  rcases requests_actPiece d p with ⟨ns, heq⟩ | ⟨_, heq⟩ <;> rw [heq]
  · exact hd.finishAll ns
  · exact hd.startAll _

/-- Nobody awaits the reply to a request that is over. -/
theorem Coherent.receive_of_isOver (h : c.Coherent) (hover : c.requests.IsOver n) :
    c.receive n = c := by
  unfold Controller.receive
  split
  · next hdue =>
    have hactive := (h.active_iff n).mpr (mem_awaited_of_due hdue)
    rw [hover.inactive] at hactive
    cases hactive
  · rfl

/-- While no poll is asked for, no request becomes active. -/
theorem idle_runPieces (h : c.requests.activeCount = 0) {pieces : List Piece}
    (hasked : c.asked pieces = 0) : (c.runPieces pieces).requests.activeCount = 0 := by
  induction pieces generalizing c with
  | nil => exact h
  | cons p pieces ih =>
    obtain ⟨hnone, hrest⟩ := Nat.add_eq_zero_iff.mp hasked
    refine ih ?_ hrest
    rcases requests_actPiece c p with ⟨ns, heq⟩ | ⟨⟨origin, hsome⟩, _⟩
    · rw [heq]
      exact Nat.le_zero.mp (h ▸ Requests.activeCount_finishAll_le c.requests ns)
    · rw [hsome] at hnone
      cases hnone

/-! ## Giving up -/

/-- Giving up a poll leaves the same whatever the poll's replies would have been. -/
theorem abort_of_replies {before after : List (Flight δ)} {f f' : Flight δ} {index : Nat}
    (hflights : c.flights = before ++ f :: after) (hf : f.origin = .background index)
    (horigin : f'.origin = f.origin) (hawaited : f'.awaited = f.awaited) :
    { c with flights := before ++ f' :: after }.abort index = c.abort index := by
  have hf' : f'.origin = .background index := horigin.trans hf
  have hended : ((before ++ f' :: after).filter fun g => g.origin = .background index).flatMap
      Flight.awaited = (c.flights.filter fun g => g.origin = .background index).flatMap
      Flight.awaited := by
    rw [hflights]
    simp [List.filter_append, hf, hf', hawaited]
  have hrest : ((before ++ f' :: after).filter fun g => g.origin ≠ .background index) =
      c.flights.filter fun g => g.origin ≠ .background index := by
    rw [hflights]
    simp [List.filter_append, hf, hf']
  unfold abort
  dsimp only
  rw [hended, hrest]

/-- The requests of a poll that is given up were the only active ones. -/
theorem Coherent.idle_abort (h : c.Coherent) {before after : List (Flight δ)} {f : Flight δ}
    {index : Nat} (hflights : c.flights = before ++ f :: after)
    (hf : f.origin = .background index) (hactive : f.isActive = true) :
    (c.abort index).requests.activeCount = 0 := by
  have hone := h.one
  rw [hflights, List.countP_append, List.countP_cons, if_pos hactive] at hone
  have hbefore : before.countP Flight.isActive = 0 := by omega
  have hafter : after.countP Flight.isActive = 0 := by omega
  have hquiet : ∀ g ∈ (c.abort index).flights, g.awaited = [] := by
    intro g hg
    obtain ⟨hg, hother⟩ := List.mem_filter.mp hg
    have hother : g.origin ≠ .background index := of_decide_eq_true hother
    have hidle : g.isActive = false := by
      refine Bool.eq_false_iff.mpr ?_
      rw [hflights] at hg
      rcases List.mem_append.mp hg with hg | hg
      · exact List.countP_eq_zero.mp hbefore g hg
      · rcases List.mem_cons.mp hg with rfl | hg
        · exact absurd hf hother
        · exact List.countP_eq_zero.mp hafter g hg
    exact Flight.awaited_eq_nil hidle
  rw [(h.abort index).activeCount_eq]
  exact congrArg List.length (List.flatMap_eq_nil_iff.mpr hquiet)

/-- **A poll that is given up leaves nothing behind.** If this happens before its last reply, no
request is active then and all stay on record, and nothing else has changed: not the cache, nor
whether polling is stopped, nor a channel. The requests are over for good, so that a reply to one
changes nothing. Had the source answered the fetches so far in any other way, the same would follow.
The next poll that is asked for takes off unless polling is stopped or the host is hidden. -/
theorem abort_leaves_nothing (setup : Setup δ) (visible : Bool) (pieces : List Piece) (index : Nat)
    (before after : List (Flight δ)) (f : Flight δ) :
    let c := (initial setup visible).runPieces pieces
    let d := c.abort index
    c.flights = before ++ f :: after → f.origin = .background index → f.isActive = true →
    d.requests.activeCount = 0 ∧ (∀ n, d.requests.isActive n = false) ∧
    d.requests.resources = c.requests.resources ∧
    d.cache = c.cache ∧ d.stopped = c.stopped ∧ d.halt = c.halt ∧ d.channels = c.channels ∧
    d = { c with requests := d.requests, flights := d.flights } ∧
    (∀ (later : List Piece), ∀ n ∈ f.awaited,
      let e := d.runPieces later
      e.requests.isActive n = false ∧ e.receive n = e) ∧
    (∀ (source : Source δ) (f' : Flight δ), c.Foresees source → f'.origin = f.origin →
      f'.awaited = f.awaited → ∀ later : List Piece,
      (({ c with flights := before ++ f' :: after }.withSource source).abort index).runPieces later =
        (d.runPieces later).withSource source) ∧
    ∀ later : List Piece, d.asked later = 0 →
      let e := d.runPieces later
      e.requests.activeCount = 0 ∧
      ∀ p origin, e.asksPiece p = some origin → e.stopped = false → e.isVisible = true →
        Issues e (e.actPiece p) := by
  intro c d hflights hf hactive
  have hcoherent : c.Coherent := (coherent_initial setup visible).runPieces pieces
  have hcoherent' : d.Coherent := hcoherent.abort index
  have hidle : d.requests.activeCount = 0 := hcoherent.idle_abort hflights hf hactive
  have hinactive : ∀ n, d.requests.isActive n = false := by
    intro n
    refine Bool.eq_false_iff.mpr fun hn => ?_
    have hmem := (hcoherent'.active_iff n).mp hn
    rw [hcoherent'.awaited_eq_nil hidle] at hmem
    cases hmem
  have hresources : d.requests.resources = c.requests.resources := Requests.resources_finishAll _ _
  refine ⟨hidle, hinactive, hresources, rfl, rfl, rfl, rfl, rfl, ?_, ?_, ?_⟩
  · intro later n hn e
    have hissued : c.requests.isActive n = true := by
      refine (hcoherent.active_iff n).mpr (List.mem_flatMap.mpr ⟨f, ?_, hn⟩)
      rw [hflights]
      exact List.mem_append_right _ List.mem_cons_self
    have hrecorded : n < d.requests.size := by
      rw [Requests.size_eq, hresources, ← Requests.size_eq]
      exact Requests.lt_size_of_isActive hissued
    have hover : e.requests.IsOver n := isOver_runPieces ⟨hrecorded, hinactive n⟩ later
    exact ⟨hover.inactive, (hcoherent'.runPieces later).receive_of_isOver hover⟩
  · intro source f' hforesees horigin hawaited later
    have hsame : { c with flights := before ++ f' :: after }.abort index = d :=
      abort_of_replies hflights hf horigin hawaited
    have hforesees : d.Foresees source := hforesees
    show (({ c with flights := before ++ f' :: after }.abort index).withSource source).runPieces
      later = _
    rw [hsame]
    exact runPieces_withSource hforesees later
  · intro later hasked e
    have hidle : e.requests.activeCount = 0 := idle_runPieces hidle hasked
    refine ⟨hidle, fun p origin hasks hgo hvisible => ?_⟩
    cases p with
    | receive | land => cases hasks
    | whole m => exact issues_act hasks (obstacle?_eq_none.mpr ⟨hgo, hvisible, hidle⟩)

/-- A poll is given up when data have come for one resource, before it is told that the other is
gone. The next poll takes off. -/
theorem abort_leaves_nothing_gone :
    let setup : Setup Nat := ⟨["a", "b"], fun r count => ⟨if r = "a" then 5 else 9,
      if r = "a" then .ok count else .error (.notFound "gone")⟩, "/models", true⟩
    let c := (initial setup true).runPieces [.whole .spawn, .whole (.pass 5), .receive 0]
    let d := c.abort 0
    let e := d.runPieces [.whole (.pass 9)]
    d.requests.activeCount = 0 ∧ d.requests.resources = ["a", "b"] ∧ d.stopped = false ∧
      e.receive 1 = e ∧ Issues e (e.actPiece (.whole .poll)) := by
  intro setup c d e
  let f : Flight Nat := ⟨.background 0,
    [⟨"a", 0, 5, .ok 1, false⟩, ⟨"b", 1, 9, .error (.notFound "gone"), true⟩]⟩
  obtain ⟨hidle, _, hresources, _, hstopped, _, _, _, hlate, _, hnext⟩ :=
    abort_leaves_nothing setup true [.whole .spawn, .whole (.pass 5), .receive 0] 0 [] [] f
      rfl rfl rfl
  refine ⟨hidle, hresources, hstopped, ?_, ?_⟩
  · exact (hlate [.whole (.pass 9)] 1 List.mem_cons_self).2
  · exact (hnext [.whole (.pass 9)] rfl).2 (.whole .poll) .waiting rfl rfl rfl

end Controller

end RunTable.Poll
