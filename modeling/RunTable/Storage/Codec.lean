import RunTable.Storage.Database

/-!
Databases as text: a JSON array with an item for each row, which is an array of the experiment, the
second and the text of the row.
-/

namespace RunTable

open Json

def StoredRow.ofDocument? : Document → Option StoredRow
  | .array [experiment, second, text] => do
    some ⟨← experiment.string?, (← second.int64?).toInt, ← text.string?⟩
  | _ => none

def StoredRow.toDocument (r : StoredRow) : Document :=
  .array [.text r.experiment, .number (.ofInt r.second), .text r.text]

def Database.read? (s : String) : Option Database := do
  let d ← Document.read? s
  let rows ← d.list? nestingLimit fun _ => StoredRow.ofDocument?
  some ⟨rows⟩

def Database.write (db : Database) : String :=
  (Document.array (db.rows.map StoredRow.toDocument)).write

end RunTable
