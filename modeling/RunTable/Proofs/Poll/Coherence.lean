import Mathlib.Data.List.Basic
import Mathlib.Data.List.Perm.Basic
import RunTable.Proofs.Poll.Moves

/-! # The record of requests and the polls under way

The guard of a poll looks at a counter. That no two polls have active requests
at once rests on the counter being the number of replies that the polls under
way still await, and on every request being awaited by one fetch only
(`Tracked`). Whatever ends requests, be it a reply, the end of a poll or its
abort, is a step from one list of awaited requests to a part of it, so that a
single lemma serves all of them (`Tracked.finish`). -/

namespace RunTable.Poll

variable {δ : Type}

/-- The requests whose replies are awaited by polls under way. -/
def awaited (flights : List (Flight δ)) : List Nat := flights.flatMap Flight.awaited

/-- The record of requests agrees with the polls under way. -/
structure Tracked (requests : Requests) (flights : List (Flight δ)) (resources : List String) :
    Prop where
  active_iff : ∀ n, requests.isActive n = true ↔ n ∈ awaited flights
  activeCount_eq : requests.activeCount = (awaited flights).length
  nodup : (awaited flights).Nodup
  one : flights.countP Flight.isActive ≤ 1
  resource : ∀ f ∈ flights, f.fetches.map (·.resource) = resources

section

variable {requests : Requests} {flights rest : List (Flight δ)} {resources : List String}

theorem tracked_empty (resources : List String) :
    Tracked .empty ([] : List (Flight δ)) resources where
  active_iff _ := ⟨(fun h => nomatch h), (fun h => nomatch h)⟩
  activeCount_eq := rfl
  nodup := List.nodup_nil
  one := Nat.zero_le 1
  resource _ hf := nomatch hf

/-- Requests are finished, and the polls under way await all others as before. -/
theorem Tracked.finish (h : Tracked requests flights resources) (ended : List Nat)
    (hperm : (ended ++ awaited rest).Perm (awaited flights))
    (hone : rest.countP Flight.isActive ≤ flights.countP Flight.isActive)
    (hresource : ∀ f ∈ rest, f.fetches.map (·.resource) = resources) :
    Tracked (requests.finishAll ended) rest resources := by
  have hnodup : (ended ++ awaited rest).Nodup := hperm.nodup_iff.mpr h.nodup
  obtain ⟨hended, hrest, hdisjoint⟩ := List.nodup_append.mp hnodup
  refine ⟨fun n => ?_, ?_, hrest, Nat.le_trans hone h.one, hresource⟩
  · rw [Requests.isActive_finishAll, h.active_iff, ← hperm.mem_iff, List.mem_append]
    constructor
    · rintro ⟨hn | hn, hnot⟩
      · exact absurd hn hnot
      · exact hn
    · exact fun hn => ⟨Or.inr hn, fun hn' => hdisjoint n hn' n hn rfl⟩
  · have hactive : ∀ n ∈ ended, requests.isActive n = true := fun n hn =>
      (h.active_iff n).mpr (hperm.mem_iff.mp (List.mem_append_left _ hn))
    have hlength := hperm.length_eq
    rw [List.length_append] at hlength
    rw [Requests.activeCount_finishAll hended hactive, h.activeCount_eq]
    omega

theorem perm_cons_filter_ne {l : List Nat} (hl : l.Nodup) {n : Nat} (hn : n ∈ l) :
    (n :: l.filter fun m => m ≠ n).Perm l := by
  have herase : (l.filter fun m => m ≠ n) = l.erase n := by
    rw [hl.erase_eq_filter]
    exact List.filter_congr fun m _ => by simp [bne, Bool.beq_eq_decide_eq]
  rw [herase]
  exact (List.perm_cons_erase hn).symm

theorem awaited_map_receive (flights : List (Flight δ)) (n : Nat) :
    awaited (flights.map (·.receive n)) = (awaited flights).filter fun m => m ≠ n := by
  unfold awaited
  rw [List.flatMap_map, List.filter_flatMap]
  exact List.flatMap_congr fun f _ => Flight.awaited_receive f n

theorem isActive_of_receive {f : Flight δ} {n : Nat} (h : (f.receive n).isActive = true) :
    f.isActive = true := by
  rw [Flight.isActive_iff, Flight.awaited_receive] at h
  rw [Flight.isActive_iff]
  exact fun hnil => h (by rw [hnil]; rfl)

/-- A reply that is due is awaited. -/
theorem mem_awaited_of_due {n now : Nat}
    (h : (flights.any fun f => f.fetches.any fun g => g.request = n && g.isDue now) = true) :
    n ∈ awaited flights := by
  obtain ⟨f, hf, hg⟩ := List.any_eq_true.mp h
  obtain ⟨g, hg, hdue⟩ := List.any_eq_true.mp hg
  obtain ⟨hnumber, hdue⟩ := Bool.and_eq_true_iff.mp hdue
  have hwaits : g.awaited = true := (Bool.and_eq_true_iff.mp hdue).1
  refine List.mem_flatMap.mpr ⟨f, hf, ?_⟩
  exact Flight.mem_awaited.mpr ⟨g, hg, hwaits, of_decide_eq_true hnumber⟩

/-- A reply comes. -/
theorem Tracked.receive (h : Tracked requests flights resources) {n : Nat}
    (hn : n ∈ awaited flights) :
    Tracked (requests.finish n).1 (flights.map (·.receive n)) resources := by
  refine h.finish [n] ?_ ?_ ?_
  · rw [awaited_map_receive]
    exact perm_cons_filter_ne h.nodup hn
  · rw [List.countP_map]
    exact List.countP_mono_left fun f _ => isActive_of_receive
  · intro f hf
    obtain ⟨g, hg, rfl⟩ := List.mem_map.mp hf
    rw [Flight.resources_receive]
    exact h.resource g hg

/-- A poll that awaits nothing any more is taken away. -/
theorem Tracked.erase (h : Tracked requests flights resources) {place : Nat} {f : Flight δ}
    (hf : flights[place]? = some f) (hover : f.isActive = false) :
    Tracked requests (flights.eraseIdx place) resources := by
  obtain ⟨hlt, hplace⟩ := List.getElem?_eq_some_iff.mp hf
  have hsub : (flights.eraseIdx place).Sublist flights := List.eraseIdx_sublist ..
  refine h.finish [] ?_ hsub.countP_le fun g hg => h.resource g (hsub.subset hg)
  have hperm := (List.getElem_cons_eraseIdx_perm hlt).flatMap_right Flight.awaited
  rw [List.flatMap_cons, hplace, Flight.awaited_eq_nil hover] at hperm
  exact hperm

/-- Polls are given up, and what they await with them. -/
theorem Tracked.giveUp (h : Tracked requests flights resources) (p : Flight δ → Bool) :
    Tracked (requests.finishAll ((flights.filter p).flatMap Flight.awaited))
      (flights.filter fun f => !p f) resources := by
  have hsub : (flights.filter fun f => !p f).Sublist flights := List.filter_sublist
  refine h.finish _ ?_ hsub.countP_le fun f hf => h.resource f (hsub.subset hf)
  have hperm := (List.filter_append_perm p flights).flatMap_right Flight.awaited
  rwa [List.flatMap_append] at hperm

theorem Tracked.awaited_eq_nil (h : Tracked requests flights resources)
    (hclear : requests.activeCount = 0) : awaited flights = [] :=
  List.eq_nil_of_length_eq_zero (h.activeCount_eq ▸ hclear)

/-- A poll takes off while no request is active. -/
theorem Tracked.takeOff (h : Tracked requests flights resources)
    (hclear : requests.activeCount = 0) {f : Flight δ}
    (hnew : NewFetches f.fetches resources requests.size) :
    Tracked (requests.startAll resources) (flights ++ [f]) resources := by
  have hnone := h.awaited_eq_nil hclear
  have hawaited : awaited (flights ++ [f]) = List.range' requests.size resources.length := by
    unfold awaited at hnone ⊢
    rw [List.flatMap_append, hnone, List.nil_append, List.flatMap_singleton]
    exact hnew.awaited_eq f.origin
  have hidle : flights.countP Flight.isActive = 0 := by
    refine List.countP_eq_zero.mpr fun g hg hactive => Flight.isActive_iff.mp hactive ?_
    exact List.flatMap_eq_nil_iff.mp hnone g hg
  refine ⟨fun n => ?_, ?_, ?_, ?_, ?_⟩
  · rw [Requests.isActive_startAll, hawaited, h.active_iff, hnone]
    exact or_iff_right List.not_mem_nil
  · rw [hawaited, List.length_range']
    show requests.activeCount + _ = _
    rw [hclear, Nat.zero_add]
  · rw [hawaited]
    exact List.nodup_range'
  · rw [List.countP_append, hidle, Nat.zero_add]
    exact List.countP_le_length
  · intro g hg
    rcases List.mem_append.mp hg with hg | hg
    · exact h.resource g hg
    · rw [List.mem_singleton.mp hg]
      exact hnew.resource

/-- No more requests are active than one poll makes. -/
theorem Tracked.activeCount_le (h : Tracked requests flights resources) :
    requests.activeCount ≤ resources.length := by
  have hflight : ∀ f ∈ flights, f.awaited.length ≤ resources.length := by
    intro f hf
    rw [← h.resource f hf, List.length_map, Flight.awaited, List.length_map]
    exact List.length_filter_le ..
  have bound : ∀ fs : List (Flight δ), (∀ f ∈ fs, f.awaited.length ≤ resources.length) →
      (awaited fs).length ≤ fs.countP Flight.isActive * resources.length := by
    intro fs hfs
    induction fs with
    | nil => exact Nat.zero_le _
    | cons f fs ih =>
      obtain ⟨hf, hfs⟩ := List.forall_mem_cons.mp hfs
      have hfs := ih hfs
      show (f.awaited ++ awaited fs).length ≤ _
      rw [List.length_append, List.countP_cons]
      cases hactive : f.isActive with
      | true =>
        rw [if_pos rfl, Nat.add_mul, Nat.one_mul]
        omega
      | false =>
        rw [Flight.awaited_eq_nil hactive, if_neg Bool.false_ne_true, Nat.add_zero]
        exact Nat.le_trans (Nat.le_of_eq (Nat.zero_add _)) hfs
  calc requests.activeCount = (awaited flights).length := h.activeCount_eq
    _ ≤ flights.countP Flight.isActive * resources.length := bound flights hflight
    _ ≤ 1 * resources.length := Nat.mul_le_mul_right _ h.one
    _ = resources.length := Nat.one_mul _

end

namespace Controller

variable {c : Controller δ}

/-- The record of requests agrees with the polls under way. -/
def Coherent (c : Controller δ) : Prop := Tracked c.requests c.flights c.setup.resources

theorem coherent_initial (setup : Setup δ) (visible : Bool) : (initial setup visible).Coherent :=
  tracked_empty setup.resources

theorem Coherent.beginPoll (h : c.Coherent) (origin : Origin) : (c.beginPoll origin).Coherent := by
  rcases beginPoll_cases c origin with ⟨_, _, heq⟩ | ⟨_, _, heq⟩ | ⟨hclear, f, _, _, hnew, heq⟩
  · rw [heq]; exact h
  · rw [heq]; exact h
  · rw [heq]; exact h.takeOff (obstacle?_eq_none.mp hclear).2.2 hnew

theorem Coherent.receive (h : c.Coherent) (n : Nat) : (c.receive n).Coherent := by
  unfold Controller.receive
  split
  · next hdue => exact Tracked.receive h (mem_awaited_of_due hdue)
  · exact h

theorem Coherent.land (h : c.Coherent) (place : Nat) : (c.land place).Coherent := by
  unfold Controller.land
  split
  · next f hf =>
    cases hactive : f.isActive with
    | true => exact h
    | false => exact Tracked.erase h hf hactive
  · exact h

theorem Coherent.reply (h : c.Coherent) (n : Nat) : (c.reply n).Coherent :=
  reply_preserves h n (fun _ hd => hd.receive n) fun _ place hd => hd.land place

theorem Coherent.abort (h : c.Coherent) (index : Nat) : (c.abort index).Coherent := by
  have hrest : (c.flights.filter fun f => f.origin ≠ .background index) =
      c.flights.filter fun f => !decide (f.origin = .background index) :=
    List.filter_congr fun f _ => decide_not
  show Tracked _ (c.flights.filter _) _
  rw [hrest]
  exact Tracked.giveUp h _

theorem Coherent.endLoop (h : c.Coherent) : c.endLoop.Coherent := by
  unfold Controller.endLoop
  split <;> exact h

theorem Coherent.wake (h : c.Coherent) : c.wake.Coherent :=
  wake_preserves h (fun _ hd => hd) fun _ hd => hd.endLoop

theorem Coherent.tick (h : c.Coherent) : c.tick.Coherent := by
  rcases tick_cases c with ⟨_, heq⟩ | ⟨_, _, heq⟩ | ⟨l, _, _, _, heq⟩
  · rw [heq]; exact h
  · rw [heq]; exact h.endLoop
  · rw [heq]; exact Coherent.beginPoll (c := c.prepareTick l) h _

theorem Coherent.act (h : c.Coherent) (m : Move) : (c.act m).Coherent := by
  cases m with
  | poll => exact h.beginPoll _
  | spawn => exact Coherent.beginPoll (c := { c with spawned := c.spawned + 1 }) h _
  | tick => exact h.tick
  | reply request => exact h.reply request
  | wake => exact h.wake
  | abort index => exact h.abort index
  | start interval => exact h.endLoop
  | stop => exact h.endLoop
  | setVisible | evict | pass => exact h

end Controller

end RunTable.Poll
