import RunTable.Proofs.Poll.RequestRecord

/-! # The record of requests after any calls

Calls begin requests and finish them, in any order and with any numbers: given
out, not given out, or finished before. A request is active from the call that
began it to the next call with its number, which can be read off the calls
alone. The count beside the record is right because each call changes it by
what it changes in the record: a beginning adds an active request, and
finishing takes one away only where it found it. -/

namespace RunTable.Poll.Requests

/-- What is asked of a record. -/
inductive Call where
  | start (resource : String)
  | finish (number : Nat)
  deriving DecidableEq

/-- The resource for which a call begins a request, if it begins one. -/
def Call.resource? : Call → Option String
  | .start resource => some resource
  | .finish _ => none

/-- The record that a call leaves. -/
def call (r : Requests) : Call → Requests
  | .start resource => (r.start resource).1
  | .finish number => (r.finish number).1

def run (r : Requests) (calls : List Call) : Requests := calls.foldl call r

/-- What the finishing calls are told in turn, each with its number. -/
def answers (r : Requests) : List Call → List (Nat × Bool)
  | [] => []
  | .start resource :: calls => (r.start resource).1.answers calls
  | .finish number :: calls =>
    (number, (r.finish number).2) :: (r.finish number).1.answers calls

variable {r : Requests} {n : Nat}

theorem run_append (r : Requests) (earlier later : List Call) :
    r.run (earlier ++ later) = (r.run earlier).run later := List.foldl_append ..

theorem answers_append (r : Requests) (earlier later : List Call) :
    r.answers (earlier ++ later) = r.answers earlier ++ (r.run earlier).answers later := by
  induction earlier generalizing r with
  | nil => rfl
  | cons c earlier ih =>
    cases c with
    | start resource => exact ih _
    | finish number => exact congrArg _ (ih _)

/-! ## What a call does -/

theorem start_eq_startAll (r : Requests) (resource : String) :
    (r.start resource).1 = r.startAll [resource] := by
  rw [startAll_cons, startAll_nil]

theorem isActive_start (r : Requests) (resource : String) (m : Nat) :
    (r.start resource).1.isActive m = true ↔ r.isActive m = true ∨ m = r.size := by
  rw [start_eq_startAll, isActive_startAll]
  simp

theorem isActive_start_self (r : Requests) (resource : String) :
    (r.start resource).1.isActive r.size = true :=
  (isActive_start r resource r.size).mpr (Or.inr rfl)

theorem resources_call (r : Requests) (c : Call) :
    (r.call c).resources = r.resources ++ c.resource?.toList := by
  cases c with
  | start resource =>
    show (r.start resource).1.resources = _
    rw [start_eq_startAll, resources_startAll]
    rfl
  | finish number =>
    show (r.finish number).1.resources = _
    rw [resources_finish]
    exact (List.append_nil _).symm

theorem size_call (r : Requests) (c : Call) :
    (r.call c).size = r.size + c.resource?.toList.length := by
  rw [size_eq, resources_call, List.length_append, ← size_eq]

/-- A number on record stays there. -/
theorem lt_size_call (h : n < r.size) (c : Call) : n < (r.call c).size :=
  Nat.lt_of_lt_of_le h (size_call r c ▸ Nat.le_add_right ..)

theorem size_lt_size_start (r : Requests) (resource : String) :
    r.size < (r.start resource).1.size :=
  Nat.lt_of_lt_of_eq (Nat.lt_succ_self _) (size_call r (.start resource)).symm

/-- Finishing tells whether the request was active. -/
theorem finish_snd (r : Requests) (n : Nat) : (r.finish n).2 = r.isActive n := by
  unfold finish isActive
  split
  · next h => rw [h]; rfl
  · next h =>
    cases hget : r.get? n with
    | none => rfl
    | some q =>
      obtain ⟨resource, active⟩ := q
      cases active with
      | false => rfl
      | true => exact absurd hget (h resource)

/-- The count is the number of active requests on record. -/
def Counted (r : Requests) : Prop := r.activeCount = r.records.countP (·.active)

theorem counted_empty : empty.Counted := rfl

theorem Counted.pos_of_isActive (h : r.Counted) (hactive : r.isActive n = true) :
    0 < r.activeCount := by
  obtain ⟨resource, hget, _⟩ := finish_of_active hactive
  have hmem : (⟨resource, true⟩ : Request) ∈ r.records := List.mem_of_getElem? hget
  rw [h, List.countP_pos_iff]
  exact ⟨_, hmem, rfl⟩

theorem Counted.call (h : r.Counted) (c : Call) : (r.call c).Counted := by
  cases c with
  | start resource =>
    show r.activeCount + 1 = List.countP (·.active) (r.records ++ [⟨resource, true⟩])
    rw [List.countP_append, ← h]
    rfl
  | finish number =>
    show (r.finish number).1.Counted
    cases hactive : r.isActive number with
    | false => rwa [finish_of_not_active hactive]
    | true =>
      obtain ⟨resource, hget, hfinish⟩ := finish_of_active hactive
      obtain ⟨hlt, hrecord⟩ := List.getElem?_eq_some_iff.mp hget
      rw [hfinish]
      show r.activeCount - 1 = (r.records.set number ⟨resource, false⟩).countP (·.active)
      rw [List.countP_set hlt, hrecord, ← h]
      rfl

theorem get?_of_resource {resource : String} (h : r.resources[n]? = some resource) :
    r.get? n = some ⟨resource, r.isActive n⟩ := by
  have hrecords : (r.records[n]?).map (·.resource) = some resource :=
    (List.getElem?_map ..).symm.trans h
  obtain ⟨q, hq, rfl⟩ := Option.map_eq_some_iff.mp hrecords
  have hget : r.get? n = some q := hq
  rw [isActive, hget]
  rfl

/-! ## Runs -/

theorem counted_run (h : r.Counted) (calls : List Call) : (r.run calls).Counted := by
  induction calls generalizing r with
  | nil => exact h
  | cons c calls ih => exact ih (h.call c)

theorem resources_run (r : Requests) (calls : List Call) :
    (r.run calls).resources = r.resources ++ calls.filterMap Call.resource? := by
  induction calls generalizing r with
  | nil => exact (List.append_nil _).symm
  | cons c calls ih =>
    show ((r.call c).run calls).resources = _
    rw [ih, resources_call, List.append_assoc]
    cases c <;> rfl

theorem size_run (r : Requests) (calls : List Call) :
    (r.run calls).size = r.size + calls.countP (·.resource?.isSome) := by
  rw [size_eq, resources_run, List.length_append, ← size_eq, List.length_filterMap_eq_countP]

theorem size_le_size_run (r : Requests) (calls : List Call) : r.size ≤ (r.run calls).size :=
  size_run r calls ▸ Nat.le_add_right ..

/-- A request on record stays active as long as no call finishes it. -/
theorem isActive_run (h : n < r.size) (calls : List Call) :
    (r.run calls).isActive n = true ↔ r.isActive n = true ∧ .finish n ∉ calls := by
  induction calls generalizing r with
  | nil => exact (and_iff_left List.not_mem_nil).symm
  | cons c calls ih =>
    show ((r.call c).run calls).isActive n = true ↔ _
    rw [ih (lt_size_call h c), List.mem_cons, not_or, ← and_assoc]
    refine and_congr_left fun _ => ?_
    -- a beginning gives out another number, so only finishing ends the activity
    cases c with
    | start resource =>
      have hne : n ≠ r.size := Nat.ne_of_lt h
      show (r.start resource).1.isActive n = true ↔ _
      simp [isActive_start, hne]
    | finish number =>
      show (r.finish number).1.isActive n = true ↔ _
      simp [isActive_finish]

/-- Each number on record was given out by a call. -/
theorem exists_start {calls : List Call} (hle : r.size ≤ n) (hlt : n < (r.run calls).size) :
    ∃ before resource later, calls = before ++ .start resource :: later ∧
      (r.run before).size = n := by
  induction calls generalizing r with
  | nil => exact absurd hlt (Nat.not_lt.mpr hle)
  | cons c calls ih =>
    by_cases hn : n < (r.call c).size
    · cases c with
      | start resource =>
        refine ⟨[], resource, calls, rfl, Nat.le_antisymm hle (Nat.le_of_lt_succ ?_)⟩
        rwa [size_call] at hn
      | finish number =>
        rw [size_call] at hn
        exact absurd hn (Nat.not_lt.mpr hle)
    · obtain ⟨before, resource, later, rfl, hbefore⟩ := ih (Nat.le_of_not_lt hn) hlt
      exact ⟨c :: before, resource, later, rfl, hbefore⟩

/-! ## What is told along a run -/

/-- Only numbers that were given out are told to have been active. -/
theorem lt_size_of_mem_answers {calls : List Call} (h : (n, true) ∈ r.answers calls) :
    n < (r.run calls).size := by
  induction calls generalizing r with
  | nil => exact absurd h List.not_mem_nil
  | cons c calls ih =>
    cases c with
    | start resource => exact ih h
    | finish number =>
      rcases List.mem_cons.mp h with heq | h
      · obtain ⟨rfl, htold⟩ := Prod.mk.inj heq
        have hactive : r.isActive n = true := (finish_snd r n).symm.trans htold.symm
        exact Nat.lt_of_lt_of_le (lt_size_of_isActive hactive) (size_le_size_run r _)
      · exact ih h

/-- A request on record is told once to have been active if it is and a call
finishes it, and is not told so otherwise. -/
theorem count_answers (h : n < r.size) (calls : List Call) :
    (r.answers calls).count (n, true) =
      if r.isActive n = true ∧ .finish n ∈ calls then 1 else 0 := by
  induction calls generalizing r with
  | nil => simp [answers]
  | cons c calls ih =>
    have hlt : n < (r.call c).size := lt_size_call h c
    cases c with
    | start resource =>
      have hrest : (r.answers (.start resource :: calls)).count (n, true) = _ := ih hlt
      have hne : n ≠ r.size := Nat.ne_of_lt h
      rw [hrest]
      simp [isActive_start, hne]
    | finish number =>
      have hrest : ((r.finish number).1.answers calls).count (n, true) = _ := ih hlt
      rw [answers, List.count_cons, hrest, finish_snd]
      by_cases hn : n = number
      -- told now if at all: afterwards the request is not active, and the rest tells nothing
      · subst hn
        simp [isActive_finish]
      · simp [isActive_finish, hn, Ne.symm hn]

/-! ## A request from its beginning on -/

section Begun

variable (r : Requests) (before : List Call) (resource : String) (later : List Call)

theorem run_start :
    r.run (before ++ .start resource :: later) =
      ((r.run before).start resource).1.run later := run_append ..

theorem isActive_begun :
    (r.run (before ++ .start resource :: later)).isActive (r.run before).size = true ↔
      .finish (r.run before).size ∉ later := by
  rw [run_start, isActive_run (size_lt_size_start ..), and_iff_right (isActive_start_self ..)]

theorem get?_begun :
    (r.run (before ++ .start resource :: later)).get? (r.run before).size =
      some ⟨resource, decide (.finish (r.run before).size ∉ later)⟩ := by
  have hresource : (r.run (before ++ .start resource :: later)).resources[(r.run before).size]? =
      some resource := by
    rw [run_start, resources_run, start_eq_startAll, resources_startAll, size_eq]
    simp
  rw [get?_of_resource hresource]
  congr 2
  rw [Bool.eq_iff_iff, isActive_begun, decide_eq_true_iff]

theorem count_answers_begun :
    (r.answers (before ++ .start resource :: later)).count ((r.run before).size, true) =
      if .finish (r.run before).size ∈ later then 1 else 0 := by
  have hbefore : (r.answers before).count ((r.run before).size, true) = 0 :=
    List.count_eq_zero.mpr fun h => Nat.lt_irrefl _ (lt_size_of_mem_answers h)
  rw [answers_append, List.count_append, hbefore, Nat.zero_add, answers,
    count_answers (size_lt_size_start ..)]
  simp only [isActive_start_self, true_and]

end Begun

/-- **The record accounts for every call.** Whatever was called, the count is
the number of the active requests on record, and it is above zero whenever
finishing takes one from it. As many requests are on record as were begun, each
under a number that was new, with its resource, and active until its number is
called to be finished. That call is the only one for the number that is told
`true`; any other is told `false` and changes nothing. -/
theorem accounts_for_calls (calls : List Call) :
    let r := empty.run calls
    r.activeCount = r.records.countP (·.active) ∧
    (r.anyActive = true ↔ ∃ q ∈ r.records, q.active = true) ∧
    r.size = calls.countP (·.resource?.isSome) ∧
    (∀ before resource later, calls = before ++ .start resource :: later →
      let n := ((empty.run before).start resource).2
      (empty.run before).get? n = none ∧
      r.get? n = some ⟨resource, decide (.finish n ∉ later)⟩ ∧
      (empty.answers calls).count (n, true) = if .finish n ∈ later then 1 else 0) ∧
    ∀ n,
      ((r.finish n).2 = true ↔
        ∃ before resource later, calls = before ++ .start resource :: later ∧
          ((empty.run before).start resource).2 = n ∧ .finish n ∉ later) ∧
      ((r.finish n).2 = true → (r.finish n).1.activeCount + 1 = r.activeCount) ∧
      ((r.finish n).2 = false → (r.finish n).1 = r) := by
  intro r
  have counted : r.Counted := counted_run counted_empty calls
  refine ⟨counted, ?_, ?_, ?_, fun n => ⟨?_, ?_, ?_⟩⟩
  · rw [anyActive, decide_eq_true_iff, counted, List.countP_pos_iff]
  · exact (size_run empty calls).trans (Nat.zero_add _)
  · rintro before resource later rfl
    exact ⟨List.getElem?_eq_none (Nat.le_refl _), get?_begun .., count_answers_begun ..⟩
  · rw [finish_snd]
    constructor
    · intro hactive
      obtain ⟨before, resource, later, rfl, rfl⟩ :=
        exists_start (Nat.zero_le n) (lt_size_of_isActive hactive)
      exact ⟨before, resource, later, rfl, rfl, (isActive_begun ..).mp hactive⟩
    · rintro ⟨before, resource, later, rfl, rfl, hopen⟩
      exact (isActive_begun ..).mpr hopen
  · rw [finish_snd]
    intro hactive
    rw [activeCount_finish hactive]
    exact Nat.sub_add_cancel (counted.pos_of_isActive hactive)
  · rw [finish_snd]
    exact finish_of_not_active

/-- One number is called to be finished before it is given out and twice after,
and one is never given out. -/
theorem accounts_for_calls_repeated :
    let before : List Call := [.start "a", .finish 1, .finish 0, .finish 0]
    let later : List Call := [.finish 7, .finish 1, .start "a", .finish 0, .finish 1]
    let r := empty.run (before ++ .start "b" :: later)
    r.activeCount = 1 ∧ r.activeCount = r.records.countP (·.active) ∧ r.size = 3 ∧
    (empty.run before).get? 1 = none ∧ r.get? 1 = some ⟨"b", false⟩ ∧
    (empty.answers (before ++ .start "b" :: later)).count (1, true) = 1 ∧
    (r.finish 2).2 = true ∧ (r.finish 2).1.activeCount + 1 = r.activeCount ∧
    (r.finish 1).2 = false ∧ (r.finish 1).1 = r ∧ (r.finish 7).2 = false ∧ (r.finish 7).1 = r := by
  intro before later r
  obtain ⟨counted, -, size, begun, finished⟩ :=
    accounts_for_calls (before ++ .start "b" :: later)
  obtain ⟨fresh, kept, once⟩ := begun before "b" later rfl
  have told : (r.finish 2).2 = true :=
    (finished 2).1.mpr ⟨before ++ .start "b" :: later.take 2, "a", later.drop 3, rfl, rfl, by decide⟩
  have closed : (r.finish 1).2 = false := rfl
  have unknown : (r.finish 7).2 = false := rfl
  exact ⟨rfl, counted, size, fresh, kept, once, told, (finished 2).2.1 told,
    closed, (finished 1).2.2 closed, unknown, (finished 7).2.2 unknown⟩

end RunTable.Poll.Requests
