import RunTable.View.Store

/-! # Runs of a store

A call concerns one experiment. It puts a state in place there and leaves all
other experiments alone (`Store.call_eq_restore`), so that a run looks, from
any one experiment, like a run of the calls to this experiment on a state of
its own (`Store.state_run`).

What readers get is kept apart from the store here, as a board on which
snapshots are only ever added: a reader who took a snapshot holds its place,
and a handle is nothing but the view of the board, so that it does not matter
when it was taken. -/

namespace RunTable

/-- What a call makes of the state that it concerns. -/
def StoreCall.change (constant : List Run → HiddenKeys) (s : ViewState) : StoreCall → ViewState
  | .dispatch action => s.apply action
  | .setHidden c keys => s.apply (.setHidden c keys)
  | .toggleDiff runs =>
    s.apply (if s.columns.isOn then .turnDiffOff else .turnDiffOn (constant runs))
  | .restore state => state

/-- The calls that concern an experiment, in their order. -/
def callsTo (experiment : String) (calls : List (String × StoreCall)) : List StoreCall :=
  (calls.filter fun c => c.1 = experiment).map Prod.snd

theorem callsTo_cons_self (experiment : String) (c : StoreCall)
    (calls : List (String × StoreCall)) :
    callsTo experiment ((experiment, c) :: calls) = c :: callsTo experiment calls := by
  simp [callsTo]

theorem callsTo_cons_of_ne {experiment other : String} (h : other ≠ experiment) (c : StoreCall)
    (calls : List (String × StoreCall)) :
    callsTo experiment ((other, c) :: calls) = callsTo experiment calls := by
  simp [callsTo, h]

theorem mem_callsTo {experiment : String} {c : StoreCall} {calls : List (String × StoreCall)} :
    c ∈ callsTo experiment calls ↔ (experiment, c) ∈ calls := by
  unfold callsTo
  constructor
  · intro h
    obtain ⟨⟨other, _⟩, hfilter, rfl⟩ := List.mem_map.mp h
    obtain ⟨hm, he⟩ := List.mem_filter.mp hfilter
    have heq : other = experiment := of_decide_eq_true he
    exact heq ▸ hm
  · exact fun h => List.mem_map.mpr ⟨_, List.mem_filter.mpr ⟨h, decide_eq_true rfl⟩, rfl⟩

namespace Store

/-- The store after calls. -/
def run (s : Store) (calls : List (String × StoreCall)) : Store :=
  calls.foldl (fun s c => s.call c.1 c.2) s

theorem run_cons (s : Store) (experiment : String) (c : StoreCall)
    (calls : List (String × StoreCall)) :
    s.run ((experiment, c) :: calls) = (s.call experiment c).run calls := rfl

/-! ## One call -/

/-- Whatever a call does, it puts one state in place. -/
theorem call_eq_restore (s : Store) (experiment : String) (c : StoreCall) :
    s.call experiment c = s.restore experiment (c.change s.constant (s.state experiment)) := by
  have put : ∀ a, s.dispatch experiment a = s.restore experiment ((s.state experiment).apply a) := by
    -- The state is taken out before the new one is put in, which leaves no trace.
    intro a
    simp only [dispatch, restore, KeyMap.insert_erase]
  cases c with
  | dispatch a => exact put a
  | setHidden c keys => exact put _
  | toggleDiff runs => exact put _
  | restore state => rfl

theorem constant_call (s : Store) (experiment : String) (c : StoreCall) :
    (s.call experiment c).constant = s.constant := by
  rw [call_eq_restore]
  rfl

theorem state_call (s : Store) (experiment x : String) (c : StoreCall) :
    (s.call experiment c).state x =
      if x = experiment then c.change s.constant (s.state experiment) else s.state x := by
  rw [call_eq_restore]
  show ((s.states.insert experiment _).get? x).getD .initial = _
  rw [KeyMap.get?_insert]
  split <;> rfl

theorem mem_keys_call (s : Store) (experiment x : String) (c : StoreCall) :
    x ∈ (s.call experiment c).states.keys ↔ x = experiment ∨ x ∈ s.states.keys := by
  rw [call_eq_restore]
  show x ∈ (s.states.insert experiment _).keys ↔ _
  rw [KeyMap.mem_keys, KeyMap.mem_keys, KeyMap.get?_insert]
  by_cases h : x = experiment <;> simp [h]

theorem epoch_call (s : Store) (experiment : String) (c : StoreCall) :
    (s.call experiment c).epoch = min (s.epoch + 1) lastEpoch := by
  rw [call_eq_restore]
  rfl

/-- What is published and announced is what the store has. -/
structure UpToDate (s : Store) : Prop where
  published : s.published = ⟨s.epoch, s.states⟩
  announced : s.announced = s.epoch

theorem upToDate_empty (constant : List Run → HiddenKeys) : (empty constant).UpToDate := ⟨rfl, rfl⟩

theorem upToDate_call (s : Store) (experiment : String) (c : StoreCall) :
    (s.call experiment c).UpToDate := by
  rw [call_eq_restore]
  exact ⟨rfl, rfl⟩

/-! ## Runs -/

theorem constant_run (s : Store) (calls : List (String × StoreCall)) :
    (s.run calls).constant = s.constant := by
  induction calls generalizing s with
  | nil => rfl
  | cons c calls ih => exact (ih _).trans (constant_call s c.1 c.2)

/-- An experiment sees the calls to it only, in their order. -/
theorem state_run (s : Store) (calls : List (String × StoreCall)) (experiment : String) :
    (s.run calls).state experiment =
      (callsTo experiment calls).foldl (StoreCall.change s.constant) (s.state experiment) := by
  induction calls generalizing s with
  | nil => rfl
  | cons c calls ih =>
    obtain ⟨other, c⟩ := c
    rw [run_cons, ih, constant_call, state_call]
    by_cases h : other = experiment
    · subst h
      rw [if_pos rfl, callsTo_cons_self, List.foldl_cons]
    · rw [if_neg (Ne.symm h), callsTo_cons_of_ne h]

theorem mem_keys_run (s : Store) (calls : List (String × StoreCall)) (x : String) :
    x ∈ (s.run calls).states.keys ↔ x ∈ s.states.keys ∨ ∃ c ∈ calls, c.1 = x := by
  induction calls generalizing s with
  | nil => simp [run]
  | cons c calls ih =>
    rw [run_cons, ih, mem_keys_call]
    simp only [List.mem_cons, exists_eq_or_imp]
    rw [eq_comm (a := x), or_comm (a := c.1 = x), or_assoc]

/-- The number of a snapshot counts the calls, as far as numbers go. -/
theorem epoch_run (s : Store) (calls : List (String × StoreCall)) (h : s.epoch ≤ lastEpoch) :
    (s.run calls).epoch = min (s.epoch + calls.length) lastEpoch := by
  induction calls generalizing s with
  | nil => exact (Nat.min_eq_left h).symm
  | cons c calls ih =>
    have hone := epoch_call s c.1 c.2
    rw [run_cons, ih _ (by omega), hone, List.length_cons]
    omega

theorem upToDate_run {s : Store} (h : s.UpToDate) (calls : List (String × StoreCall)) :
    (s.run calls).UpToDate := by
  induction calls generalizing s with
  | nil => exact h
  | cons c calls ih => exact ih (upToDate_call s c.1 c.2)

end Store

/-! ## Readers -/

/-- What a store shares with its readers: the snapshots that were posted, the
place of the one to be read, and the number that was announced. -/
structure Board where
  posted : List Snapshot
  current : Nat
  announced : Nat

namespace Board

def empty : Board := ⟨[⟨0, .empty⟩], 0, 0⟩

/-- Posts a snapshot at a place of its own. -/
def post (b : Board) (epoch : Nat) (states : KeyMap ViewState) : Board :=
  ⟨b.posted ++ [⟨epoch, states⟩], b.posted.length, epoch⟩

/-- The snapshot at a place. -/
def look? (b : Board) (place : Nat) : Option Snapshot := b.posted[place]?

theorem look?_post (b : Board) (epoch : Nat) (states : KeyMap ViewState) :
    (b.post epoch states).look? (b.post epoch states).current = some ⟨epoch, states⟩ :=
  List.getElem?_concat_length

theorem look?_post_of_some {b : Board} {place : Nat} {taken : Snapshot}
    (h : b.look? place = some taken) (epoch : Nat) (states : KeyMap ViewState) :
    (b.post epoch states).look? place = some taken := by
  obtain ⟨hlt, _⟩ := List.getElem?_eq_some_iff.mp h
  exact (List.getElem?_append_left hlt).trans h

end Board

/-- A store with the board that its readers look at. -/
structure SharedStore where
  store : Store
  board : Board

namespace SharedStore

def start (constant : List Run → HiddenKeys) : SharedStore := ⟨.empty constant, .empty⟩

/-- Takes a call, and posts what the store then has. -/
def call (s : SharedStore) (experiment : String) (c : StoreCall) : SharedStore :=
  let next := s.store.call experiment c
  ⟨next, s.board.post next.epoch next.states⟩

def run (s : SharedStore) (calls : List (String × StoreCall)) : SharedStore :=
  calls.foldl (fun s c => s.call c.1 c.2) s

theorem store_run (s : SharedStore) (calls : List (String × StoreCall)) :
    (s.run calls).store = s.store.run calls := by
  induction calls generalizing s with
  | nil => rfl
  | cons c calls ih => exact ih (s.call c.1 c.2)

/-- Readers are shown what the store has published. -/
structure Shown (s : SharedStore) : Prop where
  current : s.board.look? s.board.current = some s.store.published
  announced : s.board.announced = s.store.announced

theorem shown_start (constant : List Run → HiddenKeys) : (start constant).Shown := ⟨rfl, rfl⟩

theorem shown_call (s : SharedStore) (experiment : String) (c : StoreCall) :
    (s.call experiment c).Shown := by
  have now := Store.upToDate_call s.store experiment c
  constructor
  · show _ = some (s.store.call experiment c).published
    rw [now.published]
    exact Board.look?_post _ _ _
  · exact now.announced.symm

theorem shown_run {s : SharedStore} (h : s.Shown) (calls : List (String × StoreCall)) :
    (s.run calls).Shown := by
  induction calls generalizing s with
  | nil => exact h
  | cons c calls ih => exact ih (shown_call s c.1 c.2)

/-- A snapshot that was taken stays what it was. -/
theorem look?_run {s : SharedStore} {place : Nat} {taken : Snapshot}
    (h : s.board.look? place = some taken) (calls : List (String × StoreCall)) :
    (s.run calls).board.look? place = some taken := by
  induction calls generalizing s with
  | nil => exact h
  | cons c calls ih => exact ih (Board.look?_post_of_some h _ _)

/-- **Experiments do not touch each other, and readers miss nothing.** After
any calls to a new store, an experiment is in the state to which the calls to
it alone lead. The snapshot that readers then get agrees with the store in
every experiment, lists those that were called, and has the announced number,
which is the number of calls; a snapshot taken earlier is still there. -/
theorem run_projects (constant : List Run → HiddenKeys)
    (earlier later : List (String × StoreCall)) (h : (earlier ++ later).length < wordLimit) :
    let before := (start constant).run earlier
    let now := before.run later
    (∀ e, now.store.state e =
      (callsTo e (earlier ++ later)).foldl (StoreCall.change constant) .initial) ∧
    (∃ read, now.board.look? now.board.current = some read ∧ read = now.store.published ∧
      (∀ e, read.state e = now.store.state e) ∧
      (∀ e, e ∈ read.states.keys ↔ ∃ c ∈ earlier ++ later, c.1 = e) ∧
      read.epoch = (earlier ++ later).length ∧
      now.board.announced = (earlier ++ later).length) ∧
    ∃ taken, before.board.look? before.board.current = some taken ∧
      now.board.look? before.board.current = some taken := by
  intro before now
  have hstore : now.store = (Store.empty constant).run (earlier ++ later) := by
    show ((start constant).run earlier |>.run later).store = _
    rw [store_run, store_run, Store.run, Store.run, Store.run, List.foldl_append]
    rfl
  have hbefore : before.Shown := shown_run (shown_start constant) earlier
  have hnow : now.Shown := shown_run hbefore later
  have hup : now.store.UpToDate := hstore ▸ Store.upToDate_run (Store.upToDate_empty constant) _
  have hepoch : now.store.epoch = (earlier ++ later).length := by
    have hcount := Store.epoch_run (Store.empty constant) (earlier ++ later) (Nat.zero_le _)
    have hlast : lastEpoch = wordLimit - 1 := rfl
    rw [hstore, hcount, hlast]
    show min (0 + _) _ = _
    omega
  refine ⟨?_, ⟨_, hnow.current, rfl, ?_, ?_, ?_, ?_⟩, ?_⟩
  · intro e
    rw [hstore, Store.state_run]
    rfl
  · intro e
    rw [hup.published]
    rfl
  · intro e
    rw [hup.published]
    show e ∈ now.store.states.keys ↔ _
    rw [hstore, Store.mem_keys_run]
    exact or_iff_right KeySet.not_mem_empty
  · rw [hup.published]
    exact hepoch
  · rw [hnow.announced, hup.announced]
    exact hepoch
  · exact ⟨_, hbefore.current, look?_run hbefore.current later⟩

/-- Two experiments whose calls take turns. -/
theorem run_projects_two_experiments :
    let constant : List Run → HiddenKeys := fun _ => HiddenKeys.none.set .params (.ofList ["seed"])
    let earlier : List (String × StoreCall) :=
      [("a", .toggleDiff []), ("b", .setHidden .tags (.ofList ["team"]))]
    let later : List (String × StoreCall) := [("b", .toggleDiff []), ("a", .toggleDiff [])]
    let now := ((start constant).run earlier).run later
    (earlier ++ later).length < wordLimit ∧
    now.store.state "a" = [StoreCall.toggleDiff [], .toggleDiff []].foldl
      (StoreCall.change constant) .initial ∧
    ∃ read, now.board.look? now.board.current = some read ∧ read.epoch = 4 ∧
      now.board.announced = 4 ∧ ∀ e, read.state e = now.store.state e := by
  intro constant earlier later now
  have short : (earlier ++ later).length < wordLimit := by decide
  obtain ⟨alone, ⟨read, hread, _, hstate, _, hepoch, hannounced⟩, _⟩ :=
    run_projects constant earlier later short
  exact ⟨short, alone "a", read, hread, hepoch, hannounced, hstate⟩

end SharedStore

end RunTable
