import RunTable.Proofs.Storage.Reopening

/-! # A database that is kept in a file

Between its calls a database may be closed and opened again. Closing it leaves
it at rest, and opening it finds it there (`KeptDatabase.InOrder.reopen`); so
reopening leaves no trace in a run, and a kept database acts as the map of what
was last written, however often it was reopened. -/

namespace RunTable.Command

/-- A database in use: the disk as it was when it was opened, and the
connection. -/
structure KeptDatabase where
  disk : Disk
  connection : Connection

/-- What is done with a kept database. -/
inductive KeptStep where
  | call (second : Int) (c : DatabaseCall)
  | reopen

/-- The call of a step, with its second. -/
def KeptStep.call? : KeptStep → Option (Int × DatabaseCall)
  | .call second c => some (second, c)
  | .reopen => none

namespace KeptDatabase

/-- Carries out a call. -/
def call (k : KeptDatabase) (second : Int) (c : DatabaseCall) :
    KeptDatabase × Except CommandError DatabaseAnswer :=
  let (db, answer) := k.connection.database.call second c
  (⟨k.disk, { k.connection with database := db }⟩, .ok answer)

/-- Closes the database and opens it again. -/
def reopen (k : KeptDatabase) (path : String) :
    KeptDatabase × Except CommandError DatabaseAnswer :=
  let left := (k.disk.connect (.named path)).after (some k.connection.database)
  match (left.connect (.named path)).result with
  | .ok c => (⟨left, c⟩, .ok .done)
  | .error e => (⟨left, k.connection⟩, .error e)

def step (k : KeptDatabase) (path : String) :
    KeptStep → KeptDatabase × Except CommandError DatabaseAnswer
  | .call second c => k.call second c
  | .reopen => k.reopen path

/-- The database after steps. -/
def run (k : KeptDatabase) (path : String) (steps : List KeptStep) : KeptDatabase :=
  steps.foldl (fun k s => (k.step path s).1) k

/-- The database can be written, and it can be left in order. -/
structure InOrder (k : KeptDatabase) (path : String) (place : List String) : Prop where
  straight : k.disk.Straight path place
  lends : ∃ db, k.disk.Lends place db (k.disk.connect (.named path))
  writable : k.connection.writable = true

variable {k : KeptDatabase} {path : String} {place : List String}

/-- A path that leads to a free place, or to a database without rows that was
left in order. -/
inductive StartsEmpty (d : Disk) (path : String) (place : List String) : Prop
  | vacant (h : d.Vacant path place)
  | resting {table : Option Database} (site : Disk.Site place) (straight : d.Straight path place)
    (rests : d.Rests place table) (rowless : table.getD .empty = .empty)

variable {d : Disk}

theorem StartsEmpty.site (h : StartsEmpty d path place) : Disk.Site place := by
  cases h with
  | vacant h => exact h.site
  | resting site _ _ _ => exact site

theorem StartsEmpty.inOrder (h : StartsEmpty d path place) :
    ∃ first, (d.connect (.named path)).result = .ok first ∧ first.database = .empty ∧
      (KeptDatabase.mk d first).InOrder path place := by
  have opened : d.Straight path place ∧ d.Lends place .empty (d.connect (.named path)) := by
    cases h with
    | vacant h => exact ⟨h.toStraight, Disk.lends_connect_new h⟩
    | resting site straight rests rowless =>
      exact ⟨straight, rowless ▸ Disk.lends_connect site straight rests⟩
  obtain ⟨straight, lends⟩ := opened
  obtain ⟨first, hopens, hempty, hwritable⟩ := lends.opens
  exact ⟨first, hopens, hempty, straight, ⟨_, lends⟩, hwritable⟩

/-- Reopening succeeds and finds the database as it was. -/
theorem InOrder.reopen (h : k.InOrder path place) (site : Disk.Site place) :
    ∃ next, k.reopen path = (next, .ok .done) ∧ next.InOrder path place ∧
      next.connection.database = k.connection.database := by
  obtain ⟨_, lends⟩ := h.lends
  have hstraight := h.straight.of_agreesAbove (lends.above k.connection.database)
  have hrests := lends.rests k.connection.database
  have hlends := Disk.lends_connect site hstraight hrests
  obtain ⟨c, hopens, hdatabase, hwritable⟩ := hlends.opens
  let left := (k.disk.connect (.named path)).after (some k.connection.database)
  refine ⟨⟨left, c⟩, ?_, ⟨hstraight, ⟨_, hlends⟩, hwritable⟩, hdatabase⟩
  unfold KeptDatabase.reopen
  simp only [hopens, left]

/-- After any steps the database is in order, and what the calls alone make of
it. -/
theorem InOrder.run (h : k.InOrder path place) (site : Disk.Site place) (steps : List KeptStep) :
    (k.run path steps).InOrder path place ∧
      (k.run path steps).connection.database =
        k.connection.database.run (steps.filterMap KeptStep.call?) := by
  induction steps generalizing k with
  | nil => exact ⟨h, rfl⟩
  | cons s steps ih =>
    cases s with
    | call second c => exact ih (k := (k.call second c).1) ⟨h.straight, h.lends, h.writable⟩
    | reopen =>
      obtain ⟨next, hreopen, hnext, hdatabase⟩ := h.reopen site
      obtain ⟨horder, hrun⟩ := ih hnext
      have hstep : k.run path (.reopen :: steps) = next.run path steps := by
        show ((k.reopen path).1).run path steps = _
        rw [hreopen]
      rw [hstep]
      exact ⟨horder, hrun.trans (by rw [hdatabase]; rfl)⟩

theorem vacant_runs : Disk.empty.Vacant "runs.db" ["runs.db"] := by
  constructor
  · constructor <;> decide +kernel
  case alone | short =>
    intro c
    cases c <;> decide +kernel
  all_goals decide +kernel

/-- **A database keeps what was last written.** A database that starts empty can
be opened; and whatever is called, and however often it is closed and opened in
between, it acts as the map of what was last written for each experiment, can be
written, and can be reopened with all its rows as they are. -/
theorem kept_as_last_written (h : StartsEmpty d path place) (steps : List KeptStep) :
    ∃ first, (d.connect (.named path)).result = .ok first ∧
      let kept := (KeptDatabase.mk d first).run path steps
      kept.connection.database.ActsAs (lastWritten (steps.filterMap KeptStep.call?)) ∧
      kept.connection.writable = true ∧
      ∃ next, kept.step path .reopen = (next, .ok .done) ∧
        next.connection.database = kept.connection.database := by
  obtain ⟨first, hopens, hempty, horder⟩ := h.inOrder
  obtain ⟨hkept, hrun⟩ := horder.run h.site steps
  obtain ⟨next, hreopen, _, hdatabase⟩ := hkept.reopen h.site
  refine ⟨first, hopens, ?_, hkept.writable, next, hreopen, hdatabase⟩
  rw [hrun]
  show (first.database.run _).ActsAs _
  rw [hempty]
  exact Database.actsAs_run _

theorem kept_as_last_written_reopened :
    let grid := { ViewState.initial with layout := .grid }
    let steps : List KeptStep := [.call 3 (.put "a" grid), .reopen,
      .call 3 (.replaceText "b" "?"), .call 4 (.putIfChanged "a" .initial .initial),
      .call 5 (.put "c" grid), .reopen, .call 5 (.delete "c"), .reopen]
    ∃ first, (Disk.empty.connect (.named "runs.db")).result = .ok first ∧
      let db := ((KeptDatabase.mk Disk.empty first).run "runs.db" steps).connection.database
      db.get "a" = .ok (some grid) ∧ db.get "b" = .error ⟨"b"⟩ ∧ db.get "c" = .ok none ∧
      (db.call 6 (.get "b")).1 = db ∧ (db.call 6 (.delete "c")).2 = .told false ∧
      ∃ names, db.call 6 .list = (db, .listed names) ∧ names.Nodup ∧
        "a" ∈ names ∧ "b" ∈ names ∧ "c" ∉ names := by
  intro grid steps
  have unread : ViewState.read? "?" = none := by decide +kernel
  have written : lastWritten (steps.filterMap KeptStep.call?) "a" = some (.state grid) ∧
      lastWritten (steps.filterMap KeptStep.call?) "b" = some (.text "?") ∧
      lastWritten (steps.filterMap KeptStep.call?) "c" = none := ⟨rfl, rfl, rfl⟩
  obtain ⟨ha, hb, hc⟩ := written
  obtain ⟨first, hopens, acts, _⟩ := kept_as_last_written (.vacant vacant_runs) steps
  have found (e : String) := congrArg Prod.snd (acts.get 6 e)
  obtain ⟨names, hlist, single, hmem⟩ := acts.list 6
  refine ⟨first, hopens, ?_, ?_, ?_, congrArg Prod.fst (acts.get 6 "b"), ?_, names, hlist, single,
    ?_, ?_, ?_⟩
  · simpa [Database.call, ha, Written.read] using found "a"
  · simpa [Database.call, hb, Written.read, unread] using found "b"
  · simpa [Database.call, hc] using found "c"
  · simp [acts.delete, hc]
  · simp [hmem, ha]
  · simp [hmem, hb]
  · simp [hmem, hc]

end KeptDatabase

end RunTable.Command
