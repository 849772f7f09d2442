import Mathlib.Data.List.Induction
import RunTable.Proofs.Storage.Rows
import RunTable.Proofs.View.StoredText

/-! # A database is a map of what was last written

The calls to a database are compared with a map that knows no rows: for each
experiment the last call that wrote or deleted it decides (`lastWritten`). What
a call makes of one experiment depends on that experiment alone
(`Database.text?_call`), so the two agree after any calls, and then every
answer is the one that the map gives (`Database.actsAs_run`). -/

namespace RunTable

/-- A call to a database. -/
inductive DatabaseCall where
  | put (experiment : String) (state : ViewState)
  | putIfChanged (experiment : String) (before after : ViewState)
  | delete (experiment : String)
  | replaceText (experiment text : String)
  | get (experiment : String)
  | list

/-- What a call answers. -/
inductive DatabaseAnswer where
  | done
  | told (yes : Bool)
  | found (state : Except Undecodable (Option ViewState))
  | listed (experiments : List String)

/-- Carries out a call at a second. -/
def Database.call (db : Database) (second : Int) : DatabaseCall → Database × DatabaseAnswer
  | .put experiment state => (db.put experiment second state, .done)
  | .putIfChanged experiment before after =>
    let (db, written) := db.putIfChanged experiment second before after
    (db, .told written)
  | .delete experiment =>
    let (db, deleted) := db.delete experiment
    (db, .told deleted)
  | .replaceText experiment text => (db.replaceText experiment second text, .done)
  | .get experiment => (db, .found (db.get experiment))
  | .list => (db, .listed db.list)

/-- The database after calls, each with its second. -/
def Database.run (db : Database) (calls : List (Int × DatabaseCall)) : Database :=
  calls.foldl (fun db c => (db.call c.1 c.2).1) db

/-! ## The map -/

/-- What was written for an experiment: a state, or a text as it is. -/
inductive Written where
  | state (s : ViewState)
  | text (t : String)

namespace Written

/-- The text that is stored. -/
def stored : Written → String
  | .state s => s.write
  | .text t => t

/-- What is found where this was written. -/
def read (experiment : String) : Written → Except Undecodable (Option ViewState)
  | .state s => .ok (some s)
  | .text t =>
    match ViewState.read? t with
    | some s => .ok (some s)
    | none => .error ⟨experiment⟩

end Written

/-- The experiment that a call concerns. -/
def DatabaseCall.experiment? : DatabaseCall → Option String
  | .put experiment _ | .putIfChanged experiment _ _ | .delete experiment
  | .replaceText experiment _ | .get experiment => some experiment
  | .list => none

/-- What a call leaves for its experiment, if it writes or deletes. -/
def DatabaseCall.leaves? : DatabaseCall → Option (Option Written)
  | .put _ s => some (some (.state s))
  | .putIfChanged _ before after => if before = after then none else some (some (.state after))
  | .delete _ => some none
  | .replaceText _ t => some (some (.text t))
  | .get _ | .list => none

/-- What a call leaves for one experiment. -/
def DatabaseCall.leavesFor? (x : String) (c : DatabaseCall) : Option (Option Written) :=
  if c.experiment? = some x then c.leaves? else none

theorem DatabaseCall.leavesFor?_eq_none {c : DatabaseCall} (idle : c.leaves? = none) (x : String) :
    c.leavesFor? x = none := by
  rw [leavesFor?, idle, ite_self]

theorem DatabaseCall.leavesFor?_eq {c : DatabaseCall} {e : String} {w : Option Written}
    (concerns : c.experiment? = some e) (leaves : c.leaves? = some w) (x : String) :
    c.leavesFor? x = if x = e then some w else none := by
  rw [leavesFor?, concerns, leaves]
  by_cases hx : x = e
  · simp [hx]
  · simp [hx, Ne.symm hx]

/-- Whether a call removes the row of an experiment, be it to make a new one. -/
def DatabaseCall.removes (x : String) : DatabaseCall → Bool
  | .delete experiment | .replaceText experiment _ => experiment = x
  | .put .. | .putIfChanged .. | .get _ | .list => false

/-- What was last written for an experiment, unless it was deleted since. -/
def lastWritten (calls : List (Int × DatabaseCall)) (x : String) : Option Written :=
  (calls.filterMap fun c => c.2.leavesFor? x).getLast?.join

theorem lastWritten_append (calls : List (Int × DatabaseCall)) (c : Int × DatabaseCall)
    (x : String) :
    lastWritten (calls ++ [c]) x = (c.2.leavesFor? x).getD (lastWritten calls x) := by
  unfold lastWritten
  rw [List.filterMap_append]
  cases h : c.2.leavesFor? x with
  | none => simp [h]
  | some w => simp [h]

/-! ## One call -/

namespace Database

variable {db : Database}

theorem run_append (db : Database) (calls : List (Int × DatabaseCall)) (c : Int × DatabaseCall) :
    db.run (calls ++ [c]) = ((db.run calls).call c.1 c.2).1 := by
  rw [run, List.foldl_append]
  rfl

/-- The ways in which a call leaves a database: as it was, with a text written
into a row, with a new row in place of an old one, or without a row. -/
inductive Left (db : Database) (second : Int) (c : DatabaseCall) : Database → Prop
  | kept (idle : c.leaves? = none) (spares : ∀ x, c.removes x = false) : Left db second c db
  | wrote {experiment w} (concerns : c.experiment? = some experiment)
    (leaves : c.leaves? = some (some w)) (spares : ∀ x, c.removes x = false) :
    Left db second c (db.putText experiment second w.stored)
  | replaced {experiment t} (same : c = .replaceText experiment t) :
    Left db second c (db.replaceText experiment second t)
  | deleted {experiment} (same : c = .delete experiment) :
    Left db second c (db.delete experiment).1

theorem left_call (db : Database) (second : Int) (c : DatabaseCall) :
    Left db second c (db.call second c).1 := by
  cases c with
  | put experiment s => exact .wrote rfl (w := .state s) rfl fun _ => rfl
  | putIfChanged experiment before after =>
    by_cases h : before = after
    · have stays : (db.call second (.putIfChanged experiment before after)).1 = db := by
        simp [call, putIfChanged, h]
      rw [stays]
      exact .kept (if_pos h) fun _ => rfl
    · have writes : (db.call second (.putIfChanged experiment before after)).1 =
          db.putText experiment second (Written.state after).stored := by
        simp [call, putIfChanged, put, Written.stored, h]
      rw [writes]
      exact .wrote rfl (if_neg h) fun _ => rfl
  | delete experiment => exact .deleted rfl
  | replaceText experiment t => exact .replaced rfl
  | get | list => exact .kept rfl fun _ => rfl

theorem Single.call (h : db.Single) (second : Int) (c : DatabaseCall) :
    (db.call second c).1.Single := by
  have left := left_call db second c
  generalize (db.call second c).1 = next at left
  cases left with
  | kept _ _ => exact h
  | wrote _ _ _ => exact h.putText _ second _
  | replaced _ => exact (h.delete _).putText _ second _
  | deleted _ => exact h.delete _

/-- A call leaves for an experiment what it writes there, or else what was there. -/
theorem text?_call (db : Database) (second : Int) (c : DatabaseCall) (x : String) :
    (db.call second c).1.text? x =
      ((c.leavesFor? x).map (Option.map Written.stored)).getD (db.text? x) := by
  have left := left_call db second c
  generalize (db.call second c).1 = next at left
  cases left with
  | kept idle _ =>
    rw [DatabaseCall.leavesFor?_eq_none idle]
    rfl
  | wrote concerns leaves _ =>
    rw [text?_putText, DatabaseCall.leavesFor?_eq concerns leaves]
    split <;> rfl
  | replaced same =>
    subst same
    rw [replaceText, text?_putText, text?_delete, DatabaseCall.leavesFor?_eq rfl rfl]
    split <;> rfl
  | deleted same =>
    subst same
    rw [text?_delete, DatabaseCall.leavesFor?_eq rfl rfl]
    split <;> rfl

/-! ## Any calls -/

theorem single_run (calls : List (Int × DatabaseCall)) : (empty.run calls).Single := by
  induction calls using List.reverseRecOn with
  | nil => exact single_empty
  | append_singleton calls c ih =>
    rw [run_append]
    exact ih.call c.1 c.2

theorem text?_run (calls : List (Int × DatabaseCall)) (x : String) :
    (empty.run calls).text? x = (lastWritten calls x).map Written.stored := by
  induction calls using List.reverseRecOn with
  | nil => rfl
  | append_singleton calls c ih =>
    rw [run_append, text?_call, lastWritten_append, ih]
    cases c.2.leavesFor? x <;> rfl

/-- A database answers as a map does, which has for each experiment what was
written there. -/
structure ActsAs (db : Database) (written : String → Option Written) : Prop where
  /-- The text of an experiment is the one that was written. -/
  text : ∀ e, db.text? e = (written e).map Written.stored
  /-- Reading leaves the row, even if its text spells no state. -/
  get : ∀ second e, db.call second (.get e) =
    (db, .found ((written e).elim (.ok none) (Written.read e)))
  /-- No state is found just where there is no row. -/
  absent : ∀ e, db.get e = .ok none ↔ db.row? e = none
  delete : ∀ second e, (db.call second (.delete e)).2 = .told (written e).isSome
  unchanged : ∀ second e s, db.call second (.putIfChanged e s s) = (db, .told false)
  changed : ∀ second e before after, before ≠ after →
    db.call second (.putIfChanged e before after) =
      ((db.call second (.put e after)).1, .told true)
  /-- The list names each experiment with a row once, and no other. -/
  list : ∀ second, ∃ names, db.call second .list = (db, .listed names) ∧ names.Nodup ∧
    ∀ e, e ∈ names ↔ (written e).isSome = true
  /-- A call leaves what is found for the experiments that it does not concern. -/
  others : ∀ second c x, c.experiment? ≠ some x →
    (db.call second c).1.get x = db.get x

theorem get_eq_read {written : String → Option Written}
    (h : ∀ e, db.text? e = (written e).map Written.stored) (e : String) :
    db.get e = (written e).elim (.ok none) (Written.read e) := by
  unfold get
  rw [h e]
  match written e with
  | none => rfl
  | some (.state s) => simp [Written.stored, Written.read, ViewState.read?_write]
  | some (.text t) => rfl

theorem get_eq_none {e : String} : db.get e = .ok none ↔ db.row? e = none := by
  unfold get text?
  cases h : db.row? e with
  | none => simp
  | some r => cases hread : ViewState.read? r.text <;> simp [hread]

theorem actsAs {written : String → Option Written} (single : db.Single)
    (h : ∀ e, db.text? e = (written e).map Written.stored) : db.ActsAs written where
  text := h
  get second e := by rw [call, get_eq_read h]
  absent e := get_eq_none
  delete second e := by
    have hrow : (db.row? e).isSome = (written e).isSome := by
      rw [← Option.isSome_map (f := Written.stored), ← h e, text?, Option.isSome_map]
    rw [← hrow]
    rfl
  unchanged second e s := by simp [call, putIfChanged]
  changed second e before after differ := by simp [call, putIfChanged, differ]
  list second := by
    refine ⟨db.list, rfl, single.nodup_list, fun e => ?_⟩
    rw [mem_list, mem_experiments_iff_text?, h e, Option.isSome_map]
  others second c x hx := by
    have same : (db.call second c).1.text? x = db.text? x := by
      rw [text?_call, DatabaseCall.leavesFor?, if_neg hx]
      rfl
    rw [get, get, same]

/-- After any calls a database acts as the map of what was last written. -/
theorem actsAs_run (calls : List (Int × DatabaseCall)) :
    (empty.run calls).ActsAs (lastWritten calls) :=
  actsAs (single_run calls) (text?_run calls)

end Database

end RunTable
