import RunTable.Command.Tables
import RunTable.Proofs.View.StoredText

/-! # The one write of a view command

A view command ends in one of five ways (`ViewCommand.Ran`). In only one of
them does it write, and that one is no failure; so a command that fails leaves
the database as it was. What it writes is the row of its own experiment. -/

namespace RunTable

/-- The rows of all experiments but one, in their order. -/
def Database.others (db : Database) (experiment : String) : List StoredRow :=
  db.rows.filter (·.experiment ≠ experiment)

theorem Database.others_putText (db : Database) (experiment : String) (second : Int)
    (text : String) :
    (db.putText experiment second text).others experiment = db.others experiment := by
  unfold putText others
  split
  · generalize db.rows = rows
    induction rows with
    | nil => rfl
    | cons r rows ih =>
      by_cases h : r.experiment = experiment
      · simpa [h] using ih
      · simpa [h] using ih
  · simp [List.filter_append]

namespace Command

/-- A state that was put is loaded, and other experiments load as before. -/
theorem loadState_put (db : Database) (experiment : String) (second : Int) (s : ViewState)
    (x : String) :
    loadState (db.put experiment second s) x =
      if x = experiment then .ok s else loadState db x := by
  simp only [loadState, Database.get, Database.put, Database.text?_putText]
  by_cases h : x = experiment
  · simp [h, ViewState.read?_write]
  · simp only [if_neg h]

/-! ## What a view command does -/

/-- The state to which a view command leads, and the runs that it loads. -/
def ViewCommand.outcome (runsAt : String → Except CommandError (List Run))
    (command : ViewCommand) (s : ViewState) :
    Except CommandError (ViewState × Option (List Run)) :=
  (command.action runsAt s).map fun (action, runs) => (action.elim s s.apply, runs)

/-- Showing a view leads to no other state. -/
theorem ViewCommand.outcome_present {runsAt : String → Except CommandError (List Run)}
    {path : Option String} {before after : ViewState} {runs : Option (List Run)}
    (h : (ViewCommand.present path).outcome runsAt before = .ok (after, runs)) :
    after = before := by
  cases path with
  | none => cases h; rfl
  | some path =>
    simp only [outcome, action] at h
    cases found : runsAt path with
    | error e => rw [found] at h; cases h
    | ok runs => rw [found] at h; cases h; rfl

/-! A failure to write is not found before there is something to write. -/

theorem bind_ne_error {α β : Type} {x : Except CommandError α} {f : α → Except CommandError β}
    {e : CommandError} (hx : x ≠ .error e) (hf : ∀ a, f a ≠ .error e) : (x >>= f) ≠ .error e := by
  cases x with
  | error _ => exact fun h => hx (congrArg Except.error (Except.error.inj h))
  | ok a => exact hf a

theorem runsAt_ne_unwritable (look : String → Found) (path experiment : String) :
    runsAt look path ≠ .error (.unwritable experiment) := by
  unfold runsAt
  split
  · split <;> nofun
  · nofun
  · nofun

theorem categoryOf_ne_unwritable (word experiment : String) :
    categoryOf word ≠ .error (.unwritable experiment) := by
  unfold categoryOf
  cases Category.parse word <;> nofun

theorem ViewCommand.outcome_ne_unwritable (look : String → Found) (command : ViewCommand)
    (s : ViewState) (experiment : String) :
    command.outcome (runsAt look) s ≠ .error (.unwritable experiment) := by
  have act : command.action (runsAt look) s ≠ .error (.unwritable experiment) := by
    cases command with
    | present path =>
      cases path with
      | none => simp [action]
      | some path => exact bind_ne_error (runsAt_ne_unwritable look path experiment) nofun
    | hide category _ | unhide category _ =>
      exact bind_ne_error (categoryOf_ne_unwritable category experiment) nofun
    | toggleDiff path => exact bind_ne_error (runsAt_ne_unwritable look path experiment) nofun
    | sort key ascending =>
      simp only [action]
      split <;> nofun
    | search _ | paramFilter _ | metricFilter _ | lifecycle _ | layout _ | reset => simp [action]
  unfold outcome
  cases found : command.action (runsAt look) s with
  | error _ => exact fun h => act (found.trans (congrArg Except.error (Except.error.inj h)))
  | ok _ => nofun

/-- The ways in which a view command on an open database ends, each with the
database that it leaves and its result. -/
inductive ViewCommand.Ran (c : Connection) (second : Int) (experiment : String)
    (command : ViewCommand) :
    Database × Except CommandError (ViewState × Option (List Run)) → Prop
  | undecoded {e} (load : loadState c.database experiment = .error e) :
    Ran c second experiment command (c.database, .error e)
  | refused {before e} (load : loadState c.database experiment = .ok before)
    (refuse : command.outcome (runsAt c.look) before = .error e) :
    Ran c second experiment command (c.database, .error e)
  | idle {state runs} (load : loadState c.database experiment = .ok state)
    (stay : command.outcome (runsAt c.look) state = .ok (state, runs)) :
    Ran c second experiment command (c.database, .ok (state, runs))
  | unwritable {before after runs} (load : loadState c.database experiment = .ok before)
    (move : command.outcome (runsAt c.look) before = .ok (after, runs))
    (differ : before ≠ after) (fixed : c.writable = false) :
    Ran c second experiment command (c.database, .error (.unwritable experiment))
  | written {before after runs} (load : loadState c.database experiment = .ok before)
    (move : command.outcome (runsAt c.look) before = .ok (after, runs))
    (differ : before ≠ after) (free : c.writable = true) :
    Ran c second experiment command
      (c.database.put experiment second after, .ok (after, runs))

theorem ViewCommand.ran_run (c : Connection) (second : Int) (experiment : String)
    (command : ViewCommand) :
    command.Ran c second experiment (command.run c second experiment) := by
  unfold run
  cases load : loadState c.database experiment with
  | error e => exact .undecoded load
  | ok before =>
    cases act : command.action (runsAt c.look) before with
    | error e =>
      have refuse : command.outcome (runsAt c.look) before = .error e := by
        rw [outcome, act]
        rfl
      simpa only [act] using Ran.refused load refuse
    | ok found =>
      obtain ⟨action, runs⟩ := found
      have move : command.outcome (runsAt c.look) before =
          .ok (action.elim before before.apply, runs) := by
        rw [outcome, act]
        rfl
      simp only [act, Database.putIfChanged]
      generalize action.elim before before.apply = after at move
      by_cases same : before = after
      · subst same
        simpa using Ran.idle load move
      · cases writable : c.writable with
        | false => simpa [same] using Ran.unwritable load move same writable
        | true => simpa [same] using Ran.written load move same writable

/-- A view command leaves the database, unless it leads to another state: that
one it writes, and then it does not fail. -/
theorem ViewCommand.keeps_or_writes (c : Connection) (second : Int) (experiment : String)
    (command : ViewCommand) :
    (command.run c second experiment).1 = c.database ∨
    ∃ before after runs, loadState c.database experiment = .ok before ∧
      command.outcome (runsAt c.look) before = .ok (after, runs) ∧ before ≠ after ∧
      command.run c second experiment =
        (c.database.put experiment second after, .ok (after, runs)) := by
  have ran := command.ran_run c second experiment
  generalize command.run c second experiment = left at ran
  cases ran with
  | undecoded _ | refused _ _ | idle _ _ | unwritable _ _ _ _ => exact .inl rfl
  | written load move differ _ => exact .inr ⟨_, _, _, load, move, differ, rfl⟩

section

variable {c : Connection} {second : Int} {experiment : String} {command : ViewCommand}

theorem ViewCommand.run_ne_unwritable (free : c.writable = true) (e : String) :
    (command.run c second experiment).2 ≠ .error (.unwritable e) := by
  have ran := command.ran_run c second experiment
  generalize command.run c second experiment = left at ran
  cases ran with
  | undecoded load =>
    intro h
    cases h
    unfold loadState at load
    split at load <;> cases load
  | refused load refuse =>
    intro h
    cases h
    exact outcome_ne_unwritable _ _ _ _ refuse
  | idle _ _ | written _ _ _ _ => nofun
  | unwritable _ _ _ fixed => cases free.symm.trans fixed

theorem ViewCommand.database_of_error {e : CommandError}
    (h : (command.run c second experiment).2 = .error e) :
    (command.run c second experiment).1 = c.database := by
  rcases command.keeps_or_writes c second experiment with kept | ⟨_, _, _, _, _, _, wrote⟩
  · exact kept
  · rw [wrote] at h
    cases h

theorem ViewCommand.database_of_same {s : ViewState} {runs : Option (List Run)}
    (load : loadState c.database experiment = .ok s)
    (h : (command.run c second experiment).2 = .ok (s, runs)) :
    (command.run c second experiment).1 = c.database := by
  rcases command.keeps_or_writes c second experiment with
    kept | ⟨before, after, _, load', _, differ, wrote⟩
  · exact kept
  · rw [wrote] at h
    have hbefore : before = s := Except.ok.inj (load'.symm.trans load)
    have hafter : after = s := congrArg Prod.fst (Except.ok.inj h)
    exact absurd (hbefore.trans hafter.symm) differ

theorem ViewCommand.database_of_present (path : Option String) :
    ((ViewCommand.present path).run c second experiment).1 = c.database := by
  rcases (ViewCommand.present path).keeps_or_writes c second experiment with
    kept | ⟨_, _, _, _, move, differ, _⟩
  · exact kept
  · exact absurd (outcome_present move).symm differ

theorem ViewCommand.others_run (c : Connection) (second : Int) (experiment : String)
    (command : ViewCommand) :
    (command.run c second experiment).1.others experiment = c.database.others experiment := by
  rcases command.keeps_or_writes c second experiment with kept | ⟨_, _, _, _, _, _, wrote⟩
  · rw [kept]
  · rw [wrote]
    exact Database.others_putText _ _ _ _

/-- What a view command shows is what is loaded afterwards. -/
theorem ViewCommand.loadState_run {s : ViewState} {runs : Option (List Run)}
    (h : (command.run c second experiment).2 = .ok (s, runs)) :
    loadState (command.run c second experiment).1 experiment = .ok s := by
  have ran := command.ran_run c second experiment
  generalize command.run c second experiment = left at ran h
  cases ran with
  | undecoded _ | refused _ _ | unwritable _ _ _ _ => cases h
  | idle load _ =>
    cases h
    exact load
  | written _ _ _ _ =>
    cases h
    rw [loadState_put, if_pos rfl]

end

/-! ## What a command leaves -/

/-- The database that is found at a place, if it can be opened. -/
def Surroundings.databaseAt (around : Surroundings) (location : Location) : Option Database :=
  match around.connect location with
  | .ok c => some c.database
  | .error _ => none

/-- Whether a database that a command opened is afterwards what it was. -/
def Report.Keeps (around : Surroundings) (report : Report) : Prop :=
  ∀ location left, report.visit = some (location, left) → left = around.databaseAt location

/-- The commands that only show something. -/
def TableCommand.onlyShows : TableCommand → Bool
  | .sheet .. | .diff _ | .view _ (.present _) => true
  | .view _ _ => false

theorem Report.keeps_of_unvisited {around : Surroundings} {report : Report}
    (h : report.visit = none) : report.Keeps around := by
  intro location left visited
  rw [h] at visited
  cases visited

theorem Surroundings.keeps_withDatabase {around : Surroundings} {location : Location}
    {use : Connection → Database × Except CommandError String}
    (h : ∀ c, around.connect location = .ok c → (use c).1 = c.database) :
    (around.withDatabase location use).Keeps around := by
  intro place left hleft
  unfold withDatabase at hleft
  unfold databaseAt
  cases opened : around.connect location with
  | error e =>
    simp only [opened] at hleft
    cases hleft
    rw [opened]
  | ok c =>
    simp only [opened] at hleft
    cases hleft
    rw [opened, h c opened]

namespace TableCommand

theorem run_view {around : Surroundings} {named : Option String} {c : Connection}
    (opened : around.connect (named.elim around.location .named) = .ok c)
    (format : OutputFormat) (experiment : String) (view : ViewCommand) :
    (TableCommand.view experiment view).run around format named =
      let (db, result) := view.run c around.second experiment
      ⟨some (named.elim around.location .named, some db),
        result.map fun (s, runs) => stateText format experiment s runs⟩ := by
  simp only [run, Surroundings.withDatabase, opened]

/-- **A command writes last, if at all, and one row.** A command that fails, one
that only shows something, and a view command that leads to the state that it
loaded leave every row as it was, with its text and its time, and so the order
in which the rows are listed. Whatever else a view command leaves, the rows of
other experiments are as they were, and its own experiment loads in the state
that it showed. -/
theorem run_keeps_rows (around : Surroundings) (format : OutputFormat) (named : Option String)
    (command : TableCommand) :
    let location := named.elim around.location .named
    let report := command.run around format named
    (∀ e, report.result = .error e → report.Keeps around) ∧
    (command.onlyShows → report.Keeps around) ∧
    ∀ experiment view c, command = .view experiment view → around.connect location = .ok c →
      (∀ s runs, loadState c.database experiment = .ok s →
        (view.run c around.second experiment).2 = .ok (s, runs) → report.Keeps around) ∧
      ∃ left, report.visit = some (location, some left) ∧
        left.others experiment = c.database.others experiment ∧
        ∀ s runs, (view.run c around.second experiment).2 = .ok (s, runs) →
          loadState left experiment = .ok s := by
  intro location report
  cases command with
  | sheet experiment path =>
    have keeps : report.Keeps around := by
      simp only [report, run]
      cases runsAt around.look path with
      | error e => exact Report.keeps_of_unvisited rfl
      | ok runs => exact Surroundings.keeps_withDatabase fun _ _ => rfl
    exact ⟨fun _ _ => keeps, fun _ => keeps, fun _ _ _ other => by cases other⟩
  | diff path =>
    have keeps : report.Keeps around := Report.keeps_of_unvisited rfl
    exact ⟨fun _ _ => keeps, fun _ => keeps, fun _ _ _ other => by cases other⟩
  | view experiment view =>
    have kept (h : ∀ c, around.connect location = .ok c →
        (view.run c around.second experiment).1 = c.database) : report.Keeps around :=
      Surroundings.keeps_withDatabase h
    refine ⟨fun e failed => kept fun c opened => ?_, fun shows => ?_, fun _ _ c same opened => ?_⟩
    · rw [show report = _ from run_view opened format experiment view] at failed
      cases result : (view.run c around.second experiment).2 with
      | error e => exact ViewCommand.database_of_error result
      | ok found => simp only [result] at failed; cases failed
    · cases view with
      | present path => exact kept fun _ _ => ViewCommand.database_of_present path
      | _ => cases shows
    · cases same
      refine ⟨fun s runs load result => kept fun c' opened' => ?_, _, ?_,
        ViewCommand.others_run c around.second experiment view,
        fun s runs => ViewCommand.loadState_run⟩
      · obtain rfl : c = c' := Except.ok.inj (opened.symm.trans opened')
        exact ViewCommand.database_of_same load result
      · rw [show report = _ from run_view opened format experiment view]

/-- A database with a row that spells no state, and commands on it: one with a
bad sort key, one whose runs are missing, one that resets what is reset, and one
that changes an experiment without a row. -/
theorem run_keeps_rows_undecodable_row :
    let db : Database := ⟨[⟨"broken", 5, "?"⟩, ⟨"kept", 7, "\x7b\x7d"⟩]⟩
    let c : Connection := ⟨db, true, fun _ => .missing⟩
    let around : Surroundings := ⟨c.look, fun _ => .ok c, .named "runs.db", 9⟩
    let report (command : TableCommand) := command.run around .json none
    let present := TableCommand.view "kept" (.present (some "runs.json"))
    (report (.view "kept" (.sort "loss" true))).result =
        .error (.rejected (.badSortKey "loss")) ∧
      (report (.view "kept" (.sort "loss" true))).Keeps around ∧
    (report (.view "broken" .reset)).result = .error (.undecodable ⟨"broken"⟩) ∧
      (report (.view "broken" .reset)).Keeps around ∧
    present.onlyShows ∧ (report present).Keeps around ∧
    (ViewCommand.reset.run c 9 "kept").2 = .ok (.initial, none) ∧
      (report (.view "kept" .reset)).Keeps around ∧
    ∃ left, (report (.view "new" (.search "lr"))).visit = some (.named "runs.db", some left) ∧
      left.others "new" = db.others "new" ∧
      loadState left "new" = .ok { ViewState.initial with search := "lr" } := by
  intro db c around report present
  have unread : ViewState.read? "?" = none := by decide +kernel
  have spelled : ViewState.read? "\x7b\x7d" = some .initial := by decide +kernel
  have load : loadState db "kept" = .ok .initial := by
    simp [loadState, Database.get, Database.text?, Database.row?, db, spelled]
  have reset : (ViewCommand.reset.run c 9 "kept").2 = .ok (.initial, none) := by
    simp [ViewCommand.run, ViewCommand.action, ViewState.apply, c, load, Database.putIfChanged]
  have failed : (report (.view "kept" (.sort "loss" true))).result =
      .error (.rejected (.badSortKey "loss")) := by
    have bad : SortKey.parse? "loss" = none := by decide +kernel
    simp [report, run, around, c, Surroundings.withDatabase, ViewCommand.run, load,
      ViewCommand.action, bad, Except.map]
  have undecodable : (report (.view "broken" .reset)).result =
      .error (.undecodable ⟨"broken"⟩) := by
    simp [report, run, around, c, db, Surroundings.withDatabase, ViewCommand.run, loadState,
      Database.get, Database.text?, Database.row?, unread, Except.map]
  have searched : ((ViewCommand.search "lr").run c 9 "new").2 =
      .ok ({ ViewState.initial with search := "lr" }, none) := by
    have absent : loadState db "new" = .ok .initial := rfl
    have differ : ViewState.initial ≠ { ViewState.initial with search := "lr" } := by decide
    simp [ViewCommand.run, ViewCommand.action, ViewState.apply, c, absent, Database.putIfChanged,
      differ]
  obtain ⟨left, hleft, others, shown⟩ :=
    ((run_keeps_rows around .json none (.view "new" (.search "lr"))).2.2 "new" _ c rfl rfl).2
  refine ⟨failed, (run_keeps_rows around .json none _).1 _ failed, undecodable,
    (run_keeps_rows around .json none _).1 _ undecodable, rfl,
    (run_keeps_rows around .json none present).2.1 rfl, reset,
    ((run_keeps_rows around .json none (.view "kept" .reset)).2.2 "kept" _ c rfl rfl).1 _ _
      load reset, left, hleft, others, shown _ _ searched⟩

end TableCommand

end Command

end RunTable
