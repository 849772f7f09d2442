import RunTable.Proofs.Poll.Answers
import RunTable.Proofs.Poll.OnePoll
import RunTable.Proofs.Poll.Order

/-! # Replies in any order

While a poll is under way, every other poll is skipped, and each reply only
ends the wait for itself (`Underway`). Nothing is done with a reply before the
last has come. Then all are dealt with in the order of the resources, so that
neither the order in which they came nor what happened in between can be seen
in the outcome or the cache (`Finished`). Two things could: that the poll is
given up, and that somebody else takes an entity out of the cache. -/

namespace RunTable.Poll

variable {δ : Type}

/-- Whether a move interferes with a poll: it gives the poll up, or evicts an entity. -/
def Move.disturbs (origin : Origin) : Move → Bool
  | .abort index => origin = .background index
  | .evict _ => true
  | _ => false

theorem Flight.mem_fetches_of_receive {f : Flight δ} {n : Nat} {g : Fetch δ}
    (hg : g ∈ (f.receive n).fetches) (hwaits : g.awaited = true) :
    g ∈ f.fetches ∧ g.request ≠ n := by
  obtain ⟨old, hold, heq⟩ := List.mem_map.mp hg
  by_cases hn : old.request = n
  · rw [if_pos hn] at heq
    rw [← heq] at hwaits
    cases hwaits
  · rw [if_neg hn] at heq
    exact heq ▸ ⟨hold, hn⟩

theorem Flight.requests_receive (f : Flight δ) (n : Nat) :
    (f.receive n).fetches.map (·.request) = f.fetches.map (·.request) :=
  map_receive (·.request) (fun _ _ => rfl) f n

namespace Controller

variable {c d e : Controller δ} {f : Flight δ} {origin : Origin} {m : Move}

/-- The numbers of the requests of a poll that begins now. -/
def nextRequests (c : Controller δ) : List Nat :=
  List.range' c.requests.size c.setup.resources.length

/-- Whether all of some requests are over. -/
def isOver (c : Controller δ) (numbers : List Nat) : Bool :=
  numbers.all fun n => !c.requests.isActive n

/-- The first state along a run in which all of some requests are over. -/
def whenOver? (c : Controller δ) (numbers : List Nat) : List Move → Option (Controller δ)
  | [] => if c.isOver numbers then some c else none
  | m :: moves => if c.isOver numbers then some c else (c.act m).whenOver? numbers moves

/-- Whether the reply to a fetch comes along a run, at a time when it is due. -/
def comes (c : Controller δ) (fetch : Fetch δ) : List Move → Bool
  | [] => false
  | m :: moves =>
    decide (m = .reply fetch.request ∧ fetch.due ≤ c.now) || (c.act m).comes fetch moves

/-- Between two states, polls were skipped and none was dealt with. -/
def OnlySkips (c d : Controller δ) : Prop :=
  ∃ skips, d.history = c.history ++ skips ∧ ∀ s ∈ skips, (s.2 matches .skipped _) = true

/-- A poll that began in one state is under way in another. -/
structure Underway (c d : Controller δ) (f : Flight δ) : Prop where
  orderly : d.Orderly
  flights : d.flights = [f]
  entries : f.entries = c.nextEntries
  requests : f.fetches.map (·.request) = c.nextRequests
  cache : d.cache = c.cache
  history : OnlySkips c d

/-- A poll that began in one state has just been dealt with in another. -/
structure Finished (c d : Controller δ) (origin : Origin) : Prop where
  orderly : d.Orderly
  flights : d.flights = []
  cache : d.cache = c.nextEntries.foldl Entry.keep c.cache
  history : ∃ before outcome, OnlySkips c before ∧
    d.history = before.history ++ [(origin, outcome)] ∧ Reports c.nextEntries outcome

theorem OnlySkips.refl (c : Controller δ) : OnlySkips c c :=
  ⟨[], (List.append_nil _).symm, fun _ hs => nomatch hs⟩

theorem OnlySkips.skip (h : OnlySkips c d) {reason : SkipReason}
    (hhistory : e.history = d.history ++ [(origin, .skipped reason)]) : OnlySkips c e := by
  obtain ⟨skips, hskips, hall⟩ := h
  refine ⟨skips ++ [(origin, .skipped reason)], ?_, fun s hs => ?_⟩
  · rw [hhistory, hskips, List.append_assoc]
  · rcases List.mem_append.mp hs with hs | hs
    · exact hall s hs
    · rw [List.mem_singleton.mp hs]

theorem OnlySkips.congr (h : OnlySkips c d) (hhistory : e.history = d.history) : OnlySkips c e := by
  obtain ⟨skips, hskips, hall⟩ := h
  exact ⟨skips, hhistory.trans hskips, hall⟩

/-! ## The beginning -/

theorem beginPoll_of_clear (h : c.obstacle? = none) (origin : Origin) :
    c.beginPoll origin =
      let f : Flight δ := ⟨origin, (c.issueFetches c.setup.resources).2⟩
      if f.isActive then { c.issued with flights := c.flights ++ [f] } else c.issued.handle f := by
  have hissued : (c.issueFetches c.setup.resources).1 = c.issued := issueFetches_fst c _
  rw [beginPoll, h, ← hissued]
  dsimp only
  rw [hissued]
  rfl

/-- A poll that passes the guard is under way, or it is over because there is nothing to fetch. -/
theorem Orderly.begins (h : c.Orderly) (hasks : c.asks m = some origin)
    (hclear : c.obstacle? = none) :
    (∃ f, f.origin = origin ∧ Underway c (c.act m) f) ∨ Finished c (c.act m) origin := by
  have horderly := h.act m
  have hnone := h.flights_eq_nil (obstacle?_eq_none.mp hclear).2.2
  rw [act_of_asks hasks] at horderly ⊢
  have hprepared := prepared_eq c m
  generalize c.prepared m = p at horderly hprepared ⊢
  have hentries : p.nextEntries = c.nextEntries := by rw [hprepared]; rfl
  have hrequests : p.nextRequests = c.nextRequests := by rw [hprepared]; rfl
  have hcache : p.cache = c.cache := by rw [hprepared]
  have hhistory : p.history = c.history := by rw [hprepared]
  have hflights : p.flights = [] := by rw [hprepared]; exact hnone
  have hclear : p.obstacle? = none := by rw [hprepared]; exact hclear
  let f : Flight δ := ⟨origin, (p.issueFetches p.setup.resources).2⟩
  have hanswers : f.entries = c.nextEntries := (entries_issueFetches p _).trans hentries
  have hnumbers : f.fetches.map (·.request) = c.nextRequests :=
    (newFetches_issueFetches p p.setup.resources).request.trans hrequests
  have heq : p.beginPoll origin =
      if f.isActive then { p.issued with flights := p.flights ++ [f] } else p.issued.handle f :=
    beginPoll_of_clear hclear origin
  rw [heq] at horderly ⊢
  split at horderly
  · next hactive =>
    rw [if_pos hactive]
    refine .inl ⟨f, rfl, horderly, ?_, hanswers, hnumbers, hcache, (OnlySkips.refl c).congr hhistory⟩
    show p.flights ++ [f] = [f]
    rw [hflights, List.nil_append]
  · next hactive =>
    rw [if_neg hactive]
    refine .inr ⟨horderly, hflights, ?_, c, outcomeOf f.fetches, .refl c, ?_, ?_⟩
    · show f.fetches.foldl store p.cache = _
      rw [foldl_store_eq, hanswers, hcache]
    · show p.history ++ _ = _
      rw [hhistory]
    · rw [← hanswers]
      exact f.reports

/-! ## One move -/

theorem Underway.isActive (h : Underway c d f) : f.isActive = true :=
  h.orderly.active f (h.flights ▸ List.mem_singleton_self f)

/-- The poll under way is an obstacle to any other. -/
theorem Underway.obstacle? (h : Underway c d f) : ∃ reason, d.obstacle? = some reason := by
  cases hclear : d.obstacle? with
  | some reason => exact ⟨reason, rfl⟩
  | none =>
    have hnone := h.orderly.flights_eq_nil (obstacle?_eq_none.mp hclear).2.2
    rw [h.flights] at hnone
    cases hnone

/-- What a move leaves of the polls, the cache and the history is left of a poll under way. -/
theorem Underway.congr (h : Underway c d f) (horderly : e.Orderly) (hflights : e.flights = d.flights)
    (hcache : e.cache = d.cache) (hhistory : e.history = d.history) : Underway c e f where
  orderly := horderly
  flights := hflights.trans h.flights
  entries := h.entries
  requests := h.requests
  cache := hcache.trans h.cache
  history := h.history.congr hhistory

/-- A poll that is asked for meanwhile is skipped. -/
theorem Underway.skip (h : Underway c d f) (hasks : d.asks m = some origin) :
    Underway c (d.act m) f := by
  obtain ⟨reason, hobstacle⟩ := h.obstacle?
  have hskipped := skipped_act hasks hobstacle
  exact ⟨h.orderly.act m, hskipped.flights.trans h.flights, h.entries, h.requests,
    hskipped.cache.trans h.cache, h.history.skip hskipped.history⟩

/-- A reply that comes ends the wait for itself, and the last one ends the poll. -/
theorem Underway.reply (h : Underway c d f) (n : Nat) :
    ((∀ g ∈ f.fetches, g.request = n → g.isDue d.now = false) ∧ Underway c (d.reply n) f) ∨
      Underway c (d.reply n) (f.receive n) ∨ Finished c (d.reply n) f.origin := by
  have horderly := h.orderly.reply n
  have hentries : (f.receive n).entries = c.nextEntries := (f.entries_receive n).trans h.entries
  rcases h.orderly.reply_of_one h.flights n with ⟨hnot, heq⟩ | ⟨_, heq⟩ | ⟨_, heq⟩
  · rw [heq]
    exact .inl ⟨hnot, h⟩
  · rw [heq] at horderly ⊢
    exact .inr (.inl ⟨horderly, rfl, hentries, (f.requests_receive n).trans h.requests, h.cache,
      h.history.congr rfl⟩)
  · rw [heq] at horderly ⊢
    refine .inr (.inr ⟨horderly, rfl, ?_, d, outcomeOf (f.receive n).fetches, h.history, rfl, ?_⟩)
    · show (f.receive n).fetches.foldl store d.cache = _
      rw [foldl_store_eq, hentries, h.cache]
    · rw [← hentries]
      exact (f.receive n).reports

theorem Underway.endLoop (h : Underway c d f) : Underway c d.endLoop f := by
  have horderly := h.orderly.endLoop
  rw [endLoop_frame] at horderly ⊢
  exact h.congr horderly rfl rfl rfl

theorem Underway.wake (h : Underway c d f) : Underway c d.wake f := by
  have horderly := h.orderly.wake
  rw [wake_frame] at horderly ⊢
  exact h.congr horderly rfl rfl rfl

/-- All other moves leave the poll as it is, if they do not interfere. -/
theorem Underway.rest (h : Underway c d f) (hasks : d.asks m = none)
    (hreply : ∀ n, m ≠ .reply n) (hm : m.disturbs f.origin = false) : Underway c (d.act m) f := by
  cases m with
  | poll | spawn => cases hasks
  | tick =>
    show Underway c d.tick f
    rcases tick_cases d with ⟨_, heq⟩ | ⟨_, _, heq⟩ | ⟨_, _, _, hsome, _⟩
    · rw [heq]; exact h
    · rw [heq]; exact h.endLoop
    · rw [hsome] at hasks; cases hasks
  | reply n => exact absurd rfl (hreply n)
  | wake => exact h.wake
  | abort index =>
    have hother : f.origin ≠ .background index := of_decide_eq_false hm
    refine h.congr (h.orderly.abort index) ?_ rfl rfl
    show d.flights.filter _ = d.flights
    rw [h.flights]
    exact List.filter_eq_self.mpr fun g hg => by simp [List.mem_singleton.mp hg, hother]
  | evict => cases hm
  | start interval => exact h.endLoop.congr (h.orderly.openLoop interval) rfl rfl rfl
  | stop => exact h.endLoop
  | setVisible | pass => exact h.congr (h.orderly.act _) rfl rfl rfl

/-- After a move that does not interfere, a poll is under way with what it awaited, save a reply
that has come, or it is over. -/
theorem Underway.act (h : Underway c d f) (hm : m.disturbs f.origin = false) :
    (∃ f', f'.origin = f.origin ∧ Underway c (d.act m) f' ∧
      ∀ g ∈ f'.fetches, g.awaited = true →
        g ∈ f.fetches ∧ ¬(m = .reply g.request ∧ g.due ≤ d.now)) ∨
    Finished c (d.act m) f.origin := by
  by_cases hreply : ∃ n, m = .reply n
  · obtain ⟨n, rfl⟩ := hreply
    rcases h.reply n with ⟨hnot, hstays⟩ | hstays | hover
    · refine .inl ⟨f, rfl, hstays, fun g hg hwaits => ⟨hg, fun ⟨heq, hdue⟩ => ?_⟩⟩
      have hlate := hnot g hg (Move.reply.inj heq).symm
      simp [Fetch.isDue, hwaits, hdue] at hlate
    · refine .inl ⟨f.receive n, rfl, hstays, fun g hg hwaits => ?_⟩
      obtain ⟨hg, hne⟩ := Flight.mem_fetches_of_receive hg hwaits
      exact ⟨hg, fun ⟨heq, _⟩ => hne (Move.reply.inj heq).symm⟩
    · exact .inr hover
  · have hother : ∀ n, m ≠ .reply n := fun n heq => hreply ⟨n, heq⟩
    have hstays : Underway c (d.act m) f := by
      cases hasks : d.asks m with
      | some origin => exact h.skip hasks
      | none => exact h.rest hasks hother hm
    exact .inl ⟨f, rfl, hstays, fun g hg _ => ⟨hg, fun ⟨heq, _⟩ => hother _ heq⟩⟩

/-! ## Whole runs -/

theorem Underway.not_isOver (h : Underway c d f) : d.isOver c.nextRequests = false := by
  obtain ⟨n, hn⟩ := List.exists_mem_of_ne_nil _ (Flight.isActive_iff.mp h.isActive)
  have hactive : d.requests.isActive n = true := by
    refine (h.orderly.coherent.active_iff n).mpr ?_
    rw [h.flights, awaited, List.flatMap_singleton]
    exact hn
  obtain ⟨g, hg, _, rfl⟩ := Flight.mem_awaited.mp hn
  refine List.all_eq_false.mpr ⟨g.request, h.requests ▸ List.mem_map_of_mem hg, ?_⟩
  simp [hactive]

theorem Finished.isOver (h : Finished c d origin) : d.isOver c.nextRequests = true := by
  refine List.all_eq_true.mpr fun n _ => ?_
  have hnot : ¬ d.requests.isActive n = true := by
    rw [h.orderly.coherent.active_iff, h.flights]
    exact List.not_mem_nil
  simp [hnot]

theorem whenOver?_of_isOver {numbers : List Nat} (h : c.isOver numbers = true) (moves : List Move) :
    c.whenOver? numbers moves = some c := by
  cases moves <;> exact if_pos h

/-- When a poll's requests are over, it has just been dealt with. -/
theorem Underway.finished (h : Underway c d f) {later : List Move}
    (hlater : ∀ m ∈ later, m.disturbs f.origin = false)
    (hover : d.whenOver? c.nextRequests later = some e) : Finished c e f.origin := by
  induction later generalizing d f with
  | nil =>
    rw [whenOver?, h.not_isOver] at hover
    cases hover
  | cons m later ih =>
    obtain ⟨hm, hlater⟩ := List.forall_mem_cons.mp hlater
    rw [whenOver?, h.not_isOver] at hover
    rcases h.act hm with ⟨f', horigin, hnext, _⟩ | hfinished
    · rw [← horigin]
      exact ih hnext (horigin ▸ hlater) hover
    · have hover : (d.act m).whenOver? c.nextRequests later = some e := hover
      rw [whenOver?_of_isOver hfinished.isOver] at hover
      exact Option.some.inj hover ▸ hfinished

/-- The requests of a poll are over when all replies have come. -/
theorem Underway.exists_whenOver? (h : Underway c d f) {later : List Move}
    (hlater : ∀ m ∈ later, m.disturbs f.origin = false)
    (hcome : ∀ g ∈ f.fetches, g.awaited = true → d.comes g later = true) :
    ∃ e, d.whenOver? c.nextRequests later = some e := by
  induction later generalizing d f with
  | nil =>
    obtain ⟨g, hg, hwaits⟩ := List.any_eq_true.mp h.isActive
    cases hcome g hg hwaits
  | cons m later ih =>
    obtain ⟨hm, hlater⟩ := List.forall_mem_cons.mp hlater
    rw [whenOver?, h.not_isOver]
    show ∃ e, (d.act m).whenOver? c.nextRequests later = some e
    rcases h.act hm with ⟨f', horigin, hnext, hawaits⟩ | hfinished
    · refine ih hnext (horigin ▸ hlater) fun g hg hwaits => ?_
      obtain ⟨hg, hnot⟩ := hawaits g hg hwaits
      rcases Bool.or_eq_true_iff.mp (hcome g hg hwaits) with hnow | hlate
      · exact absurd (of_decide_eq_true hnow) hnot
      · exact hlate
    · exact ⟨_, whenOver?_of_isOver hfinished.isOver later⟩

/-- When the requests of a poll that was issued are over, it has just been dealt with. -/
theorem Orderly.finished (h : c.Orderly) (hasks : c.asks m = some origin)
    (hclear : c.obstacle? = none) {later : List Move}
    (hlater : ∀ x ∈ later, x.disturbs origin = false)
    (hover : (c.act m).whenOver? c.nextRequests later = some d) : Finished c d origin := by
  rcases h.begins hasks hclear with ⟨f, rfl, hunderway⟩ | hfinished
  · exact hunderway.finished hlater hover
  · rw [whenOver?_of_isOver hfinished.isOver] at hover
    exact Option.some.inj hover ▸ hfinished

/-- The requests of a poll that was issued are over when all replies have come. -/
theorem Orderly.exists_whenOver? (h : c.Orderly) (hasks : c.asks m = some origin)
    (hclear : c.obstacle? = none) {later : List Move}
    (hlater : ∀ x ∈ later, x.disturbs origin = false)
    (hcome : ∀ f ∈ (c.act m).flights, ∀ g ∈ f.fetches, (c.act m).comes g later = true) :
    ∃ d, (c.act m).whenOver? c.nextRequests later = some d := by
  rcases h.begins hasks hclear with ⟨f, rfl, hunderway⟩ | hfinished
  · refine hunderway.exists_whenOver? hlater fun g hg _ => ?_
    exact hcome f (hunderway.flights ▸ List.mem_singleton_self f) g hg
  · exact ⟨_, whenOver?_of_isOver hfinished.isOver later⟩

theorem Orderly.withCache (h : c.Orderly) (cache : KeyMap δ) :
    Orderly { c with cache := cache } :=
  ⟨h.coherent, h.active, h.idle⟩

/-- **Replies count in the order of the resources, not in that of their coming.** Given what is in the
cache and what each entry of the resources is answered, one outcome and one cache come of every poll
that is issued and not interfered with, whatever else happens meanwhile and whenever its replies
come, once all have. The outcome names the first entry that is gone, or else counts data and
transient errors. Data are kept and resources that are gone are thrown out in the order of the
entries, and nothing else in the cache changes. -/
theorem replies_in_any_order (cache : KeyMap δ) (entries : List (Entry δ)) :
    ∃ outcome kept,
      Reports entries outcome ∧
      ((∀ e ∈ entries, e.reply.isGone = false) → entries.countP (·.reply.isData) +
        entries.countP (·.reply.isTransient) = entries.length) ∧
      kept = entries.foldl Entry.keep cache ∧
      (∀ r, (∀ e ∈ entries, e.resource = r → e.reply.isTransient = true) →
        kept.get? r = cache.get? r) ∧
      ∀ (setup : Setup δ) (visible : Bool) (moves : List Move) (m : Move) (origin : Origin)
        (later : List Move),
        let c : Controller δ := { (initial setup visible).run moves with cache := cache }
        c.nextEntries = entries → c.asks m = some origin → c.obstacle? = none →
        (∀ x ∈ later, x.disturbs origin = false) →
        (∀ f ∈ (c.act m).flights, ∀ g ∈ f.fetches, (c.act m).comes g later = true) →
        entries.map (·.resource) = setup.resources ∧
        ∃ d, (c.act m).whenOver? c.nextRequests later = some d ∧ d.cache = kept ∧
          ∃ skips, d.history = c.history ++ skips ++ [(origin, outcome)] ∧
            ∀ s ∈ skips, (s.2 matches .skipped _) = true := by
  obtain ⟨outcome, hreports⟩ := exists_reports entries
  refine ⟨outcome, entries.foldl Entry.keep cache, hreports, countP_add_countP_of_kept, rfl,
    fun r => get?_foldl_keep_of_transient cache, ?_⟩
  intro setup visible moves m origin later c hentries hasks hclear hlater hcome
  have horderly : c.Orderly := ((orderly_initial setup visible).run moves).withCache cache
  have hsetup : c.setup = setup := setup_run _ moves
  have hresources : entries.map (·.resource) = setup.resources := by
    rw [← hentries, ← hsetup]
    exact resource_entriesOf ..
  obtain ⟨d, hd⟩ := horderly.exists_whenOver? hasks hclear hlater hcome
  have hfinished := horderly.finished hasks hclear hlater hd
  obtain ⟨before, outcome', ⟨skips, hskips, hall⟩, hhistory, hreports'⟩ := hfinished.history
  rw [hentries] at hreports'
  rw [hreports'.unique hreports, hskips] at hhistory
  exact ⟨hresources, d, hd, hentries ▸ hfinished.cache, skips, hhistory, hall⟩

/-- One resource of a list with a repetition is gone. The replies come at once and in order, or late
and the last one first, with another poll in between. -/
theorem replies_in_any_order_repetition :
    let reply : String → Nat → Reply Nat := fun r count =>
      if r = "b" then .error (.notFound "gone")
      else if count = 1 then .ok 7 else .error (.transient "busy")
    let setup (delay : String → Nat → Nat) : Setup Nat :=
      ⟨["a", "b", "a"], fun r count => ⟨delay r count, reply r count⟩, "/models", true⟩
    let cache : KeyMap Nat := (KeyMap.empty.insert "b" 1).insert "c" 3
    let c : Controller Nat := { initial (setup fun _ _ => 0) true with cache := cache }
    let c' : Controller Nat :=
      { initial (setup fun r count => if r = "b" then 5 else 17 - 8 * count) true with
        cache := cache }
    let later : List Move := [.reply 0, .reply 1, .reply 2]
    let later' : List Move :=
      [.pass 1, .reply 2, .spawn, .pass 4, .reply 1, .reply 0, .pass 4, .reply 0]
    ∃ d d', (c.act .poll).whenOver? c.nextRequests later = some d ∧
      (c'.act .poll).whenOver? c'.nextRequests later' = some d' ∧
      d.cache = d'.cache ∧ d.cache.get? "a" = some 7 ∧ d.cache.get? "b" = none ∧
      d.cache.get? "c" = some 3 ∧ d.history.getLast? = some (.waiting, .notFound "b") ∧
      d'.history.getLast? = some (.waiting, .notFound "b") := by
  intro reply setup cache c c' later later'
  let entries : List (Entry Nat) :=
    [⟨"a", .ok 7⟩, ⟨"b", .error (.notFound "gone")⟩, ⟨"a", .error (.transient "busy")⟩]
  obtain ⟨outcome, kept, hreports, _, hkept, _, hruns⟩ := replies_in_any_order cache entries
  obtain rfl : outcome = .notFound "b" :=
    hreports.notFound [⟨"a", .ok 7⟩] "b" "gone" [⟨"a", .error (.transient "busy")⟩] rfl (by decide)
  obtain ⟨_, d, hd, hcache, skips, hhistory, _⟩ :=
    hruns (setup fun _ _ => 0) true [] .poll .waiting later rfl rfl rfl (by decide) (by decide)
  obtain ⟨_, d', hd', hcache', skips', hhistory', _⟩ :=
    hruns (setup fun r count => if r = "b" then 5 else 17 - 8 * count) true [] .poll .waiting later'
      rfl rfl rfl (by decide) (by decide)
  subst hkept
  refine ⟨d, d', hd, hd', hcache.trans hcache'.symm, ?_, ?_, ?_, ?_, ?_⟩
  · rw [hcache]; rfl
  · rw [hcache]; rfl
  · rw [hcache]; rfl
  · rw [hhistory]; exact List.getLast?_concat ..
  · rw [hhistory']; exact List.getLast?_concat ..

end Controller

end RunTable.Poll
