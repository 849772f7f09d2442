import RunTable.Poll.Requests

/-! # What the record of requests tells

An operation on the record is known by what it makes of three things: which
requests are active, how many are, and for which resources there were any.
Finishing ends the activity of the numbers it is given and changes nothing
else, so that a request is never lost from the record. -/

namespace RunTable.Poll.Requests

variable {r : Requests} {n : Nat}

/-- Whether the request with a number is on record as active. -/
def isActive (r : Requests) (number : Nat) : Bool := (r.get? number).any (·.active)

/-- The resources of all requests, in the order of their beginning. -/
def resources (r : Requests) : List String := r.records.map (·.resource)

theorem size_eq (r : Requests) : r.size = r.resources.length := (List.length_map ..).symm

theorem lt_size_of_isActive (h : r.isActive n = true) : n < r.size := by
  by_cases hn : n < r.size
  · exact hn
  · have hnone : r.get? n = none := List.getElem?_eq_none (Nat.le_of_not_lt hn)
    rw [isActive, hnone] at h
    cases h

/-! ## Finishing -/

theorem finish_of_active (h : r.isActive n = true) : ∃ resource,
    r.get? n = some ⟨resource, true⟩ ∧
    (r.finish n).1 = ⟨r.records.set n ⟨resource, false⟩, r.activeCount - 1⟩ := by
  unfold isActive at h
  cases hget : r.get? n with
  | none => rw [hget] at h; cases h
  | some q =>
    obtain ⟨resource, active⟩ := q
    rw [hget] at h
    obtain rfl : active = true := h
    exact ⟨resource, rfl, by rw [finish, hget]⟩

theorem finish_of_not_active (h : r.isActive n = false) : (r.finish n).1 = r := by
  unfold finish
  split
  · next hget => rw [isActive, hget] at h; cases h
  · rfl

theorem isActive_finish (r : Requests) (n m : Nat) :
    (r.finish n).1.isActive m = true ↔ r.isActive m = true ∧ m ≠ n := by
  cases h : r.isActive n with
  | false =>
    rw [finish_of_not_active h]
    refine ⟨fun hm => ⟨hm, ?_⟩, And.left⟩
    rintro rfl
    rw [h] at hm
    cases hm
  | true =>
    obtain ⟨resource, _, hfinish⟩ := finish_of_active h
    rw [hfinish]
    show ((r.records.set n ⟨resource, false⟩)[m]?.any _) = true ↔ _
    rw [List.getElem?_set]
    by_cases hm : n = m
    · subst hm
      have hlt : n < r.records.length := lt_size_of_isActive h
      simp [hlt]
    · simp [hm, Ne.symm hm, isActive, get?]

theorem resources_finish (r : Requests) (n : Nat) : (r.finish n).1.resources = r.resources := by
  cases h : r.isActive n with
  | false => rw [finish_of_not_active h]
  | true =>
    obtain ⟨resource, hget, hfinish⟩ := finish_of_active h
    obtain ⟨hlt, hrecord⟩ := List.getElem?_eq_some_iff.mp hget
    have hlt' : n < r.resources.length := r.size_eq ▸ hlt
    have hsame : resource = r.resources[n] := by simp [Requests.resources, hrecord]
    rw [hfinish]
    show (r.records.set n _).map _ = r.resources
    rw [List.map_set]
    exact (congrArg (r.resources.set n) hsame).trans (List.set_getElem_self hlt')

theorem activeCount_finish (h : r.isActive n = true) :
    (r.finish n).1.activeCount = r.activeCount - 1 := by
  obtain ⟨_, _, hfinish⟩ := finish_of_active h
  rw [hfinish]

theorem finishAll_cons (r : Requests) (n : Nat) (ns : List Nat) :
    r.finishAll (n :: ns) = (r.finish n).1.finishAll ns := rfl

theorem isActive_finishAll (r : Requests) (ns : List Nat) (m : Nat) :
    (r.finishAll ns).isActive m = true ↔ r.isActive m = true ∧ m ∉ ns := by
  induction ns generalizing r with
  | nil => exact ⟨fun h => ⟨h, List.not_mem_nil⟩, And.left⟩
  | cons n ns ih =>
    rw [finishAll_cons, ih, isActive_finish, List.mem_cons, not_or, and_assoc]

theorem resources_finishAll (r : Requests) (ns : List Nat) :
    (r.finishAll ns).resources = r.resources := by
  induction ns generalizing r with
  | nil => rfl
  | cons n ns ih => rw [finishAll_cons, ih, resources_finish]

/-- The count falls by one for each request that was active. -/
theorem activeCount_finishAll {ns : List Nat} (hnodup : ns.Nodup)
    (hactive : ∀ n ∈ ns, r.isActive n = true) :
    (r.finishAll ns).activeCount = r.activeCount - ns.length := by
  induction ns generalizing r with
  | nil => rfl
  | cons n ns ih =>
    obtain ⟨hn, hnodup⟩ := List.nodup_cons.mp hnodup
    obtain ⟨hactive, hrest⟩ := List.forall_mem_cons.mp hactive
    have still : ∀ m ∈ ns, (r.finish n).1.isActive m = true := by
      intro m hm
      exact (isActive_finish r n m).mpr ⟨hrest m hm, fun heq => hn (heq ▸ hm)⟩
    rw [finishAll_cons, ih hnodup still, activeCount_finish hactive, List.length_cons]
    omega

/-! ## Beginning several at once -/

/-- The record with a new request for each of some resources. -/
def startAll (r : Requests) (resources : List String) : Requests :=
  ⟨r.records ++ resources.map (⟨·, true⟩), r.activeCount + resources.length⟩

theorem startAll_nil (r : Requests) : r.startAll [] = r := by simp [startAll]

theorem startAll_cons (r : Requests) (resource : String) (rest : List String) :
    r.startAll (resource :: rest) = (r.start resource).1.startAll rest := by
  simp [startAll, start, Nat.add_comm, Nat.add_left_comm]

theorem resources_startAll (r : Requests) (resources : List String) :
    (r.startAll resources).resources = r.resources ++ resources := by
  show (r.records ++ resources.map _).map _ = _
  rw [List.map_append, List.map_map]
  exact congrArg (r.resources ++ ·) (List.map_id resources)

/-- The new requests are the active ones that were not on record before. -/
theorem isActive_startAll (r : Requests) (resources : List String) (m : Nat) :
    (r.startAll resources).isActive m = true ↔
      r.isActive m = true ∨ m ∈ List.range' r.size resources.length := by
  show ((r.records ++ resources.map (⟨·, true⟩))[m]?.any _) = true ↔ _
  rw [List.mem_range'_1]
  by_cases hm : m < r.size
  · rw [List.getElem?_append_left hm]
    refine ⟨Or.inl, fun h => h.resolve_right fun hrange => ?_⟩
    omega
  · have hle : r.records.length ≤ m := Nat.le_of_not_lt hm
    have hsize : r.size = r.records.length := rfl
    have hold : ¬ r.isActive m = true := fun h => hm (lt_size_of_isActive h)
    rw [List.getElem?_append_right hle, or_iff_right hold, List.getElem?_map]
    by_cases hlt : m - r.records.length < resources.length
    · rw [List.getElem?_eq_getElem hlt]
      simp only [Option.map_some, Option.any_some, true_iff]
      omega
    · rw [List.getElem?_eq_none (Nat.le_of_not_lt hlt)]
      simp only [Option.map_none, Option.any_none, Bool.false_eq_true, false_iff]
      omega

/-! ## Requests that are over -/

/-- A request is on record, and not active. -/
structure IsOver (r : Requests) (n : Nat) : Prop where
  recorded : n < r.size
  inactive : r.isActive n = false

theorem IsOver.finishAll (h : r.IsOver n) (ns : List Nat) : (r.finishAll ns).IsOver n := by
  refine ⟨?_, Bool.eq_false_iff.mpr fun hactive => ?_⟩
  · rw [size_eq, resources_finishAll, ← size_eq]
    exact h.recorded
  · obtain ⟨hold, _⟩ := (isActive_finishAll r ns n).mp hactive
    exact Bool.eq_false_iff.mp h.inactive hold

theorem IsOver.startAll (h : r.IsOver n) (resources : List String) :
    (r.startAll resources).IsOver n := by
  refine ⟨?_, Bool.eq_false_iff.mpr fun hactive => ?_⟩
  · show n < (r.records ++ _).length
    rw [List.length_append]
    exact Nat.lt_add_right _ h.recorded
  · rcases (isActive_startAll r resources n).mp hactive with hold | hnew
    · exact Bool.eq_false_iff.mp h.inactive hold
    · exact Nat.not_lt.mpr (List.mem_range'_1.mp hnew).1 h.recorded

theorem activeCount_finishAll_le (r : Requests) (ns : List Nat) :
    (r.finishAll ns).activeCount ≤ r.activeCount := by
  induction ns generalizing r with
  | nil => exact Nat.le_refl _
  | cons n ns ih =>
    have hfinish : (r.finish n).1.activeCount ≤ r.activeCount := by
      cases h : r.isActive n with
      | true =>
        rw [activeCount_finish h]
        exact Nat.sub_le ..
      | false => exact Nat.le_of_eq (congrArg activeCount (finish_of_not_active h))
    exact Nat.le_trans (ih _) hfinish

end RunTable.Poll.Requests
