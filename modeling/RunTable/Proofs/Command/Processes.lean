import RunTable.Proofs.Command.SingleWrite
import RunTable.Proofs.View.StoreRuns

/-! # Processes that come and go, and a store that stays

Each view command is carried out by a process of its own, which loads the state
of its experiment, and stores it again only if it has changed. A store that
stays in memory answers the same requests. The database mirrors the store
(`Mirrors`): an experiment without a row is in the initial state, and any other
in the state that its row spells. One request keeps it so, and so do any. -/

namespace RunTable.Command

/-- The call that a view command makes to a store in which its experiment has a
state, if it makes one, and the runs that it loads. -/
def ViewCommand.call (runsAt : String → Except CommandError (List Run)) (s : ViewState) :
    ViewCommand → Except CommandError (Option StoreCall × Option (List Run))
  | .toggleDiff path => do
    let runs ← runsAt path
    .ok (some (.toggleDiff runs), some runs)
  | command =>
    (command.action runsAt s).map fun (action, runs) => (action.map .dispatch, runs)

/-- The call leads to the state to which the command leads. -/
theorem ViewCommand.outcome_eq_call (runsAt : String → Except CommandError (List Run))
    (command : ViewCommand) (s : ViewState) :
    command.outcome runsAt s = (command.call runsAt s).map fun (call, runs) =>
      (call.elim s (StoreCall.change constantColumns s), runs) := by
  have dispatched (x : Except CommandError (Option ViewAction × Option (List Run))) :
      (x.map fun (action, runs) => (action.elim s s.apply, runs)) =
        (x.map fun (action, runs) => (action.map StoreCall.dispatch, runs)).map
          fun (call, runs) => (call.elim s (StoreCall.change constantColumns s), runs) := by
    rcases x with e | ⟨_ | action, runs⟩ <;> rfl
  match command with
  | .toggleDiff path =>
    simp only [outcome, action, call]
    cases runsAt path <;> rfl
  | .present _ | .hide .. | .unhide .. | .search _ | .paramFilter _ | .metricFilter _ | .sort ..
  | .lifecycle _ | .layout _ | .reset => exact dispatched _

/-- A view command on an experiment, with what its process finds: the time, the
files, and whether the database can be written. -/
structure ViewRequest where
  experiment : String
  command : ViewCommand
  format : OutputFormat
  second : Int
  look : String → Found
  writable : Bool

namespace ViewRequest

/-- What the process of a request finds around it. -/
def surroundings (q : ViewRequest) (db : Database) : Surroundings :=
  ⟨q.look, fun _ => .ok ⟨db, q.writable, q.look⟩, .ofHome none, q.second⟩

/-- A process serves a request: the database that it leaves, and what it prints. -/
def serve (q : ViewRequest) (db : Database) : Database × Except CommandError String :=
  let report := (TableCommand.view q.experiment q.command).run (q.surroundings db) q.format none
  ((report.visit.bind Prod.snd).getD db, report.result)

/-- A store in memory answers a request. -/
def answer (q : ViewRequest) (store : Store) : Store × Except CommandError String :=
  match q.command.call (runsAt q.look) (store.state q.experiment) with
  | .error e => (store, .error e)
  | .ok (call, runs) =>
    let next := call.elim store (store.call q.experiment)
    (next, .ok (stateText q.format q.experiment (next.state q.experiment) runs))

/-- Takes requests one after the other: what is left in the end, and what was
printed for each. -/
def session {σ : Type} (take : ViewRequest → σ → σ × Except CommandError String) (s : σ) :
    List ViewRequest → σ × List (Except CommandError String)
  | [] => (s, [])
  | q :: rest =>
    let (next, printed) := take q s
    let (final, later) := session take next rest
    (final, printed :: later)

/-- Requests that are served by processes, from an empty database on. -/
def inProcesses (requests : List ViewRequest) : Database × List (Except CommandError String) :=
  session serve .empty requests

/-- Requests that are answered by one store, which is empty at first. -/
def inMemory (requests : List ViewRequest) : Store × List (Except CommandError String) :=
  session answer (.empty constantColumns) requests

theorem session_append {σ : Type} (take : ViewRequest → σ → σ × Except CommandError String)
    (s : σ) (earlier later : List ViewRequest) :
    session take s (earlier ++ later) =
      ((session take (session take s earlier).1 later).1,
        (session take s earlier).2 ++ (session take (session take s earlier).1 later).2) := by
  induction earlier generalizing s with
  | nil => rfl
  | cons q earlier ih => simp only [List.cons_append, session, ih]

theorem length_session {σ : Type} (take : ViewRequest → σ → σ × Except CommandError String)
    (s : σ) (requests : List ViewRequest) :
    (session take s requests).2.length = requests.length := by
  induction requests generalizing s with
  | nil => rfl
  | cons q requests ih => exact congrArg (· + 1) (ih _)

theorem serve_eq (q : ViewRequest) (db : Database) :
    q.serve db =
      let left := q.command.run ⟨db, q.writable, q.look⟩ q.second q.experiment
      (left.1, left.2.map fun (s, runs) => stateText q.format q.experiment s runs) := by
  have opened : (q.surroundings db).connect ((none : Option String).elim
      (q.surroundings db).location .named) = .ok ⟨db, q.writable, q.look⟩ := rfl
  rw [serve, TableCommand.run_view opened]
  rfl

end ViewRequest

/-! ## One request -/

section

variable {q : ViewRequest} {store : Store}

theorem ViewRequest.answer_of_error {e : CommandError}
    (refuse : q.command.outcome (runsAt q.look) (store.state q.experiment) = .error e) :
    q.answer store = (store, .error e) := by
  rw [ViewCommand.outcome_eq_call] at refuse
  unfold answer
  cases found : q.command.call (runsAt q.look) (store.state q.experiment) with
  | error _ =>
    rw [found] at refuse
    cases refuse
    rfl
  | ok _ =>
    rw [found] at refuse
    cases refuse

theorem ViewRequest.answer_of_ok (constant : store.constant = constantColumns)
    {after : ViewState} {runs : Option (List Run)}
    (move : q.command.outcome (runsAt q.look) (store.state q.experiment) = .ok (after, runs)) :
    (q.answer store).2 = .ok (stateText q.format q.experiment after runs) ∧
    (q.answer store).1.constant = constantColumns ∧
    ∀ x, (q.answer store).1.state x = if x = q.experiment then after else store.state x := by
  rw [ViewCommand.outcome_eq_call] at move
  unfold answer
  cases found : q.command.call (runsAt q.look) (store.state q.experiment) with
  | error _ =>
    rw [found] at move
    cases move
  | ok found' =>
    obtain ⟨call | call, loaded⟩ := found'
    · rw [found] at move
      cases move
      exact ⟨rfl, constant, fun x => by by_cases h : x = q.experiment <;> simp [h]⟩
    · rw [found] at move
      cases move
      have state (x : String) := Store.state_call store q.experiment x call
      rw [constant] at state
      refine ⟨?_, (Store.constant_call store q.experiment call).trans constant, state⟩
      simp only [Option.elim_some, state, if_true]

end

/-! ## The database mirrors the store -/

/-- Every experiment is in the database what it is in the store. -/
structure Mirrors (db : Database) (store : Store) : Prop where
  constant : store.constant = constantColumns
  state : ∀ experiment, loadState db experiment = .ok (store.state experiment)

namespace Mirrors

theorem empty : Mirrors .empty (.empty constantColumns) := ⟨rfl, fun _ => rfl⟩

variable {db : Database} {store : Store}

/-- What a process loads is the state in the store. -/
theorem loaded (h : Mirrors db store) {experiment : String} {s : ViewState}
    (load : loadState db experiment = .ok s) : store.state experiment = s :=
  Except.ok.inj ((h.state experiment).symm.trans load)

theorem step (h : Mirrors db store) (q : ViewRequest)
    (saved : ∀ experiment, (q.serve db).2 ≠ .error (.unwritable experiment)) :
    (q.serve db).2 = (q.answer store).2 ∧ Mirrors (q.serve db).1 (q.answer store).1 := by
  rw [ViewRequest.serve_eq] at saved ⊢
  have ran := q.command.ran_run ⟨db, q.writable, q.look⟩ q.second q.experiment
  generalize q.command.run ⟨db, q.writable, q.look⟩ q.second q.experiment = left at ran saved ⊢
  cases ran with
  | undecoded load => cases (h.state q.experiment).symm.trans load
  | refused load refuse =>
    rw [← h.loaded load] at refuse
    rw [ViewRequest.answer_of_error refuse]
    exact ⟨rfl, h⟩
  | idle load stay =>
    obtain rfl := h.loaded load
    obtain ⟨printed, constant, state⟩ := ViewRequest.answer_of_ok h.constant stay
    refine ⟨printed.symm, constant, fun x => ?_⟩
    rw [state]
    split
    · next same => exact same ▸ load
    · exact h.state x
  | unwritable _ _ _ _ => exact absurd rfl (saved q.experiment)
  | written load move _ _ =>
    obtain rfl := h.loaded load
    obtain ⟨printed, constant, state⟩ := ViewRequest.answer_of_ok h.constant move
    refine ⟨printed.symm, constant, fun x => ?_⟩
    rw [state, loadState_put]
    split
    · rfl
    · exact h.state x

/-- A request that changes nothing in the store leaves the database. -/
theorem database_of_same (h : Mirrors db store) (q : ViewRequest)
    (same : (q.answer store).1.state q.experiment = store.state q.experiment) :
    (q.serve db).1 = db := by
  rw [ViewRequest.serve_eq]
  rcases q.command.keeps_or_writes ⟨db, q.writable, q.look⟩ q.second q.experiment with
    kept | ⟨before, after, runs, load, move, differ, _⟩
  · exact kept
  · obtain rfl := h.loaded load
    obtain ⟨_, _, state⟩ := ViewRequest.answer_of_ok h.constant move
    rw [state, if_pos rfl] at same
    exact absurd same.symm differ

/-- Any requests keep the mirror, and what is printed for them is the same. -/
theorem session (h : Mirrors db store) (requests : List ViewRequest)
    (saved : ∀ experiment, .error (.unwritable experiment) ∉
      (ViewRequest.session ViewRequest.serve db requests).2) :
    (ViewRequest.session ViewRequest.serve db requests).2 =
      (ViewRequest.session ViewRequest.answer store requests).2 ∧
    Mirrors (ViewRequest.session ViewRequest.serve db requests).1
      (ViewRequest.session ViewRequest.answer store requests).1 := by
  induction requests generalizing db store with
  | nil => exact ⟨rfl, h⟩
  | cons q rest ih =>
    simp only [ViewRequest.session, List.mem_cons, not_or] at saved ⊢
    obtain ⟨printed, next⟩ := h.step q fun e => Ne.symm (saved e).1
    obtain ⟨later, final⟩ := ih next fun e => (saved e).2
    exact ⟨by rw [printed, later], final⟩

end Mirrors

/-! ## Any requests -/

namespace ViewRequest

theorem inProcesses_append (earlier later : List ViewRequest) :
    inProcesses (earlier ++ later) =
      ((session serve (inProcesses earlier).1 later).1,
        (inProcesses earlier).2 ++ (session serve (inProcesses earlier).1 later).2) :=
  session_append serve .empty earlier later

/-- Processes that may write to the database do not fail to. -/
theorem saved_of_writable {requests : List ViewRequest} (h : ∀ q ∈ requests, q.writable = true)
    (db : Database) (experiment : String) :
    .error (.unwritable experiment) ∉ (session serve db requests).2 := by
  induction requests generalizing db with
  | nil => exact List.not_mem_nil
  | cons q rest ih =>
    have free : q.writable = true := h q List.mem_cons_self
    have later := ih (fun q hq => h q (List.mem_cons_of_mem _ hq)) (q.serve db).1
    simp only [session, List.mem_cons, not_or]
    refine ⟨fun failed => ?_, later⟩
    rw [serve_eq] at failed
    cases result : (q.command.run ⟨db, q.writable, q.look⟩ q.second q.experiment).2 with
    | error _ =>
      simp only [result] at failed
      cases failed
      exact ViewCommand.run_ne_unwritable free _ result
    | ok _ =>
      simp only [result] at failed
      cases failed

theorem mirrors_inProcesses {requests earlier : List ViewRequest}
    (saved : ∀ experiment, .error (.unwritable experiment) ∉ (inProcesses requests).2)
    (h : earlier <+: requests) : Mirrors (inProcesses earlier).1 (inMemory earlier).1 := by
  obtain ⟨later, rfl⟩ := h
  refine (Mirrors.empty.session earlier fun e failed => saved e ?_).2
  rw [inProcesses_append]
  exact List.mem_append_left _ failed

/-- **Processes do what a store in memory does.** Requests that start from an
empty database, each served by a process of its own, get printed what one store
in memory would print for them, and before and after each of them every
experiment loads in the state in which the store has it. They may fail, as long
as none fails to write. A request that changes nothing in the store may be left
out: what is printed for the others stays the same, and so does the database. -/
theorem processes_mirror_store (requests : List ViewRequest)
    (saved : ∀ experiment, .error (.unwritable experiment) ∉ (inProcesses requests).2) :
    (inProcesses requests).2 = (inMemory requests).2 ∧
    (∀ earlier, earlier <+: requests → ∀ experiment,
      loadState (inProcesses earlier).1 experiment =
        .ok ((inMemory earlier).1.state experiment)) ∧
    ∀ earlier q later, requests = earlier ++ q :: later →
      (q.answer (inMemory earlier).1).1.state q.experiment =
        (inMemory earlier).1.state q.experiment →
      (inProcesses (earlier ++ later)).1 = (inProcesses requests).1 ∧
      (inProcesses (earlier ++ later)).2 = (inProcesses requests).2.eraseIdx earlier.length := by
  refine ⟨(Mirrors.empty.session requests saved).1,
    fun earlier h => (mirrors_inProcesses saved h).state, ?_⟩
  rintro earlier q later rfl same
  have before : Mirrors (inProcesses earlier).1 (inMemory earlier).1 :=
    mirrors_inProcesses saved (List.prefix_append earlier (q :: later))
  have left : (q.serve (inProcesses earlier).1).1 = (inProcesses earlier).1 :=
    before.database_of_same q same
  have skipped : session serve (inProcesses earlier).1 (q :: later) =
      ((session serve (inProcesses earlier).1 later).1,
        (q.serve (inProcesses earlier).1).2 ::
          (session serve (inProcesses earlier).1 later).2) := by
    simp only [session, left]
  have place : (inProcesses earlier).2.length = earlier.length := length_session serve _ _
  rw [inProcesses_append, inProcesses_append, skipped]
  refine ⟨rfl, ?_⟩
  rw [List.eraseIdx_append_of_length_le (Nat.le_of_eq place), place, Nat.sub_self]
  rfl

/-- Two experiments in turns: one is shown before it has a row, the other gets a
column hidden and then a command with no such category, and diff view is turned
on and off again. The other is left with its column hidden. -/
theorem processes_mirror_store_two_experiments :
    let look : String → Found := fun _ => .text "[]"
    let first : ViewRequest := ⟨"a", .present none, .human, 1, look, true⟩
    let rest : List ViewRequest := [
      ⟨"b", .hide "tags" ["team"], .human, 2, look, true⟩,
      ⟨"a", .toggleDiff "runs.json", .human, 3, look, true⟩,
      ⟨"b", .unhide "labels" [], .json, 4, look, true⟩,
      ⟨"a", .toggleDiff "runs.json", .json, 5, look, true⟩]
    let teamHidden : ViewState := { ViewState.initial with
      columns := DiffSwitch.initial.setHidden .tags (.ofList ["team"]) }
    (∀ experiment, .error (.unwritable experiment) ∉ (inProcesses (first :: rest)).2) ∧
    (inProcesses (first :: rest)).2 = (inMemory (first :: rest)).2 ∧
    (inProcesses (first :: rest)).2[1]? = some (.ok
      ("experiment: b\ndiff view: off\nhidden attributes: (none)\nhidden params: (none)\n" ++
        "hidden metrics: (none)\nhidden tags: team\nsearch: \nparam filter: \n" ++
        "metric filter: \nlifecycle: Active • layout: Compact\n" ++
        "sort: Attribute(StartTime) desc\n")) ∧
    (inProcesses (first :: rest)).2[3]? =
      some (.error (.rejected (.unknownCategory "labels"))) ∧
    loadState (inProcesses (first :: rest)).1 "a" =
      .ok ((inMemory (first :: rest)).1.state "a") ∧
    loadState (inProcesses (first :: rest)).1 "b" = .ok teamHidden ∧
    (first.answer (inMemory []).1).1.state "a" = (inMemory []).1.state "a" ∧
    (inProcesses rest).1 = (inProcesses (first :: rest)).1 := by
  intro look first rest teamHidden
  have saved : ∀ experiment,
      .error (.unwritable experiment) ∉ (inProcesses (first :: rest)).2 := by
    refine saved_of_writable (fun q hq => ?_) .empty
    simp only [first, rest, List.mem_cons, List.not_mem_nil, or_false] at hq
    rcases hq with rfl | rfl | rfl | rfl | rfl <;> rfl
  have same : (first.answer (inMemory []).1).1.state "a" = (inMemory []).1.state "a" := rfl
  have hidden : (inMemory (first :: rest)).1.state "b" = teamHidden := by decide +kernel
  have shown : (inMemory (first :: rest)).2[1]? =
      some (.ok (stateText .human "b" teamHidden none)) := rfl
  have text : stateText .human "b" teamHidden none =
      "experiment: b\ndiff view: off\nhidden attributes: (none)\nhidden params: (none)\n" ++
        "hidden metrics: (none)\nhidden tags: team\nsearch: \nparam filter: \n" ++
        "metric filter: \nlifecycle: Active • layout: Compact\n" ++
        "sort: Attribute(StartTime) desc\n" := by
    decide +kernel
  have refused : (inMemory (first :: rest)).2[3]? =
      some (.error (.rejected (.unknownCategory "labels"))) := rfl
  obtain ⟨printed, loaded, unseen⟩ := processes_mirror_store (first :: rest) saved
  refine ⟨saved, printed, ?_, ?_, loaded _ List.prefix_rfl "a", ?_, same,
    (unseen [] first rest rfl same).1⟩
  · rw [printed, shown, text]
  · rw [printed, refused]
  · rw [loaded _ List.prefix_rfl, hidden]

end ViewRequest

end RunTable.Command
