import Mathlib.Data.List.Nodup
import RunTable.Proofs.Poll.Completion

/-! # Resources that are gone and what stays in the cache

A poll throws a resource out of the cache where it is answered to be gone. But
answers are dealt with in the order of the entries, so that a later entry for
the same resource puts it back if it brings data. This takes a resource that is
listed twice; without a repetition nothing that is gone stays in the cache. -/

namespace RunTable.Poll

variable {δ : Type}

/-- Of a resource that is gone, an entry is kept exactly if the last answer that is not transient
brings data. -/
theorem contains_foldl_keep_iff (cache : KeyMap δ) {entries : List (Entry δ)} {r : String}
    (hgone : ∃ e ∈ entries, e.resource = r ∧ e.reply.isGone = true) :
    (entries.foldl Entry.keep cache).contains r = true ↔
      ∃ before data after, entries = before ++ ⟨r, .ok data⟩ :: after ∧
        ∀ e ∈ after, e.resource = r → e.reply.isTransient = true := by
  constructor
  · intro hcontains
    rcases last_cases entries r with hall | ⟨before, reply, after, rfl, hreply, hafter⟩
    · obtain ⟨e, he, hr, hgone⟩ := hgone
      obtain ⟨detail, heq⟩ := Reply.eq_of_isGone hgone
      have htransient := hall e he hr
      rw [heq] at htransient
      cases htransient
    · cases reply with
      | ok data => exact ⟨before, data, after, rfl, hafter⟩
      | error err =>
        cases err with
        | notFound detail =>
          unfold KeyMap.contains at hcontains
          rw [get?_foldl_keep_of_gone cache detail hafter] at hcontains
          cases hcontains
        | transient => cases hreply
  · rintro ⟨before, data, after, rfl, hafter⟩
    unfold KeyMap.contains
    rw [get?_foldl_keep_of_data cache data hafter]
    rfl

namespace Controller

/-- **A resource that is gone stays in the cache only if it is listed again.** After a poll some
of whose entries were gone, as it reports, a resource of these is in the cache exactly if another
entry for it brought data and those for it after that were transient errors at most. If no resource
is listed twice, none that is gone is in the cache. -/
theorem gone_cached_iff (setup : Setup δ) (visible : Bool) (moves : List Move)
    (cache : KeyMap δ) (m : Move) (origin : Origin) (later : List Move) (d : Controller δ) :
    let c : Controller δ := { (initial setup visible).run moves with cache := cache }
    c.asks m = some origin → c.obstacle? = none → (∀ x ∈ later, x.disturbs origin = false) →
    (c.act m).whenOver? c.nextRequests later = some d →
    ∀ r, (∃ e ∈ c.nextEntries, e.resource = r ∧ e.reply.isGone = true) →
      (∃ missing, d.history.getLast? = some (origin, .notFound missing)) ∧
      (d.cache.contains r = true ↔ ∃ before data after,
        c.nextEntries = before ++ ⟨r, .ok data⟩ :: after ∧
        ∀ e ∈ after, e.resource = r → e.reply.isTransient = true) ∧
      (setup.resources.Nodup → d.cache.contains r = false) := by
  intro c hasks hclear hlater hover r hgone
  have horderly : c.Orderly := ((orderly_initial setup visible).run moves).withCache cache
  have hsetup : c.setup = setup := setup_run _ moves
  have hfinished := horderly.finished hasks hclear hlater hover
  have hiff := contains_foldl_keep_iff c.cache hgone
  rw [← hfinished.cache] at hiff
  obtain ⟨gone, hmem, hr, hreply⟩ := hgone
  refine ⟨?_, hiff, fun hnodup => ?_⟩
  · obtain ⟨before, outcome, _, hhistory, hreports⟩ := hfinished.history
    rcases gone_cases c.nextEntries with hkept | ⟨front, missing, detail, after, heq, hfront⟩
    · rw [hkept gone hmem] at hreply
      cases hreply
    · refine ⟨missing, ?_⟩
      rw [hhistory, hreports.notFound front missing detail after heq hfront]
      exact List.getLast?_concat ..
  · -- an entry that brings data would be the one that is gone
    refine Bool.eq_false_iff.mpr fun hcontains => ?_
    obtain ⟨before, data, after, heq, _⟩ := hiff.mp hcontains
    have hdata : (⟨r, .ok data⟩ : Entry δ) ∈ c.nextEntries := by
      rw [heq]
      exact List.mem_append_right _ List.mem_cons_self
    have hnodup : (c.nextEntries.map (·.resource)).Nodup := by
      rw [show c.nextEntries.map (·.resource) = c.setup.resources from resource_entriesOf .., hsetup]
      exact hnodup
    have hsame : gone = ⟨r, .ok data⟩ := List.inj_on_of_nodup_map hnodup hmem hdata hr
    rw [hsame] at hreply
    cases hreply

/-- What was in the cache is thrown out of it. -/
theorem gone_cached_iff_single :
    let setup : Setup Nat := ⟨["a", "b"], fun r count => ⟨count,
      if r = "a" then .error (.notFound "gone") else .ok count⟩, "/models", true⟩
    let cache : KeyMap Nat := KeyMap.empty.insert "a" 7
    let c : Controller Nat := { initial setup true with cache := cache }
    let later : List Move := [.pass 1, .reply 1, .reply 0]
    setup.resources.Nodup ∧ ∃ d, (c.act .poll).whenOver? c.nextRequests later = some d ∧
      d.cache.contains "a" = false ∧
      ∃ missing, d.history.getLast? = some (.waiting, .notFound missing) := by
  intro setup cache c later
  have hnodup : setup.resources.Nodup := by decide
  have hlater : ∀ x ∈ later, x.disturbs .waiting = false := by decide
  have horderly : c.Orderly := (orderly_initial setup true).withCache cache
  obtain ⟨d, hover⟩ := horderly.exists_whenOver? (m := .poll) rfl rfl hlater (by decide)
  obtain ⟨hreported, -, hthrown⟩ :=
    gone_cached_iff setup true [] cache .poll .waiting later d rfl rfl hlater hover "a"
      ⟨⟨"a", .error (.notFound "gone")⟩, List.mem_cons_self, rfl, rfl⟩
  exact ⟨hnodup, d, hover, hthrown hnodup, hreported⟩

/-- A resource that is listed twice is gone at first and there at last. The poll reports that it is
gone, and polling stops, with the resource in the cache. -/
theorem gone_still_cached :
    let setup : Setup Nat := ⟨["a", "a"], fun _ count => ⟨0,
      if count = 1 then .error (.notFound "gone") else .ok 1⟩, "/models", true⟩
    let c := (initial setup true).run [.poll, .reply 0, .reply 1]
    c.history = [(.waiting, .notFound "a")] ∧ c.stopped = true ∧ c.cache.get? "a" = some 1 := by
  decide

end Controller

end RunTable.Poll
