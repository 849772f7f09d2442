import RunTable.View.Codec

/-!
The database of view states: a table with a row for each experiment, in the order in which the
rows were made. A row keeps its place when it is written again. Rows are listed by the second of
their last writing, latest first, and within one second by their place, last first.

Seen through the text of each experiment the table is a map: writing and deleting change the one
experiment and no other (`text?_putText`, `text?_delete`).
-/

namespace RunTable

/-- A row: an experiment, the second of its last writing, and the text of its view state. -/
structure StoredRow where
  experiment : String
  second : Int
  text : String
  deriving DecidableEq

/-- A row whose text spells no view state. -/
structure Undecodable where
  experiment : String
  deriving DecidableEq

/-- The text that tells of such a row. -/
def Undecodable.message (u : Undecodable) : String := "decoding view state for " ++ u.experiment

/-- The rows in the order in which they were made. -/
structure Database where
  rows : List StoredRow
  deriving DecidableEq

namespace Database

def empty : Database := ⟨[]⟩

instance : Inhabited Database := ⟨empty⟩

def row? (db : Database) (experiment : String) : Option StoredRow :=
  db.rows.find? (·.experiment = experiment)

def text? (db : Database) (experiment : String) : Option String :=
  (db.row? experiment).map (·.text)

/-- Writes a text for an experiment, in its row if it has one. -/
def putText (db : Database) (experiment : String) (second : Int) (text : String) : Database :=
  if (db.row? experiment).isSome then
    ⟨db.rows.map fun r => if r.experiment = experiment then { r with second, text } else r⟩
  else ⟨db.rows ++ [⟨experiment, second, text⟩]⟩

def put (db : Database) (experiment : String) (second : Int) (state : ViewState) : Database :=
  db.putText experiment second state.write

/-- Writes a state only if it differs from the one before. -/
def putIfChanged (db : Database) (experiment : String) (second : Int) (before after : ViewState) :
    Database × Bool :=
  if before = after then (db, false) else (db.put experiment second after, true)

/-- The state stored for an experiment, unless its text spells none. -/
def get (db : Database) (experiment : String) : Except Undecodable (Option ViewState) :=
  match db.text? experiment with
  | none => .ok none
  | some text =>
    match ViewState.read? text with
    | some state => .ok (some state)
    | none => .error ⟨experiment⟩

/-- Removes the row of an experiment, and tells whether there was one. -/
def delete (db : Database) (experiment : String) : Database × Bool :=
  (⟨db.rows.filter (·.experiment ≠ experiment)⟩, (db.row? experiment).isSome)

/-- Replaces the row of an experiment by a new one with any text. -/
def replaceText (db : Database) (experiment : String) (second : Int) (text : String) : Database :=
  (db.delete experiment).1.putText experiment second text

theorem row?_eq (db : Database) (x : String) :
    db.row? x = db.rows.find? (·.experiment = x) := rfl

/-- Rows that are rewritten are found under their experiments as before. -/
theorem find?_rewritten (rows : List StoredRow) (experiment : String) (second : Int)
    (text x : String) :
    (rows.map fun r => if r.experiment = experiment then { r with second, text } else r).find?
        (·.experiment = x) =
      (rows.find? (·.experiment = x)).map fun r =>
        if r.experiment = experiment then { r with second, text } else r := by
  rw [List.find?_map]
  congr 2
  funext r
  simp only [Function.comp]
  split <;> rfl

theorem experiment_of_row? {db : Database} {x : String} {r : StoredRow} (h : db.row? x = some r) :
    r.experiment = x := by
  simpa using List.find?_some h

/-- After a text was written for an experiment, this is its row, and others have theirs. -/
theorem row?_putText (db : Database) (experiment : String) (second : Int) (text x : String) :
    (db.putText experiment second text).row? x =
      if x = experiment then some ⟨experiment, second, text⟩ else db.row? x := by
  unfold putText
  split
  · next h =>
    rw [row?_eq, find?_rewritten, ← row?_eq]
    cases hr : db.row? x with
    | none =>
      have hx : ¬x = experiment := by
        rintro rfl
        simp [hr] at h
      rw [if_neg hx, Option.map_none]
    | some r =>
      obtain rfl := experiment_of_row? hr
      simp only [Option.map_some]
      split
      · next hx => rw [hx]
      · rfl
  · next h =>
    have h : db.row? experiment = none := by simpa using h
    rw [row?_eq, List.find?_append, ← row?_eq]
    by_cases hx : x = experiment
    · subst hx
      simp [h]
    · have hx' : ¬experiment = x := fun e => hx e.symm
      simp [hx, hx']

/-- After a deletion the experiment has no row, and others have theirs. -/
theorem row?_delete (db : Database) (experiment x : String) :
    (db.delete experiment).1.row? x = if x = experiment then none else db.row? x := by
  rw [row?_eq, row?_eq, delete]
  simp only [List.find?_filter]
  by_cases hx : x = experiment
  · subst hx
    simp
  · rw [if_neg hx]
    congr 1
    funext r
    by_cases hr : r.experiment = x <;> simp [hr, hx]

/-- After a text was written for an experiment, this is its text, and others have theirs. -/
theorem text?_putText (db : Database) (experiment : String) (second : Int) (text x : String) :
    (db.putText experiment second text).text? x =
      if x = experiment then some text else db.text? x := by
  rw [text?, row?_putText]
  split <;> rfl

/-- After a deletion the experiment has no text, and others have theirs. -/
theorem text?_delete (db : Database) (experiment x : String) :
    (db.delete experiment).1.text? x = if x = experiment then none else db.text? x := by
  rw [text?, row?_delete]
  split <;> rfl

/-- Puts a row before the first one that was written in no later second. -/
def insertRecent (r : StoredRow) : List StoredRow → List StoredRow
  | [] => [r]
  | q :: rest => if r.second < q.second then q :: insertRecent r rest else r :: q :: rest

/-- The experiments with a row, the one written last first. -/
def list (db : Database) : List String :=
  (db.rows.foldl (fun listed r => insertRecent r listed) []).map (·.experiment)

end Database

end RunTable
