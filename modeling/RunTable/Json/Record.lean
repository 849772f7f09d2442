import RunTable.KeySet
import RunTable.Json.Cell

/-!
Decoding documents into records, variants and scalars.

A record is an object, whose members may come in any order and beside others that nobody asked
for, or an array of its fields in their order, of which the last may be missing. A variant is a
name, or an object whose only member has that name. Levels of nesting are counted down: a record,
a set or a variant with a content needs one level, its parts have the rest.
-/

namespace RunTable.Json

namespace Document

/-- What a document gives for each named field of a record. A field that is given twice spoils the
record, and so does a name without characters. -/
def fields? (names : List String) : Document → Option (String → Option Document)
  | .object members => do
    let named ← members.mapM fun (name, d) => name.map (·, d)
    if names.all fun name => (named.filter (·.1 = name)).length ≤ 1 then
      some fun name => valueAt name named
    else none
  | .array items =>
    if items.length ≤ names.length then some fun name => valueAt name (names.zip items) else none
  | _ => none

/-- The fields of a record, and the levels of nesting left for them. -/
def record? (depth : Nat) (names : List String) (d : Document) :
    Option (Nat × (String → Option Document)) :=
  if depth = 0 then none else (d.fields? names).map (depth - 1, ·)

/-- The name of a variant, the content given for it, and the levels of nesting left for that. -/
def variant? (depth : Nat) : Document → Option (String × Option (Nat × Document))
  | .string s => s.map (·, none)
  | .object [(name, d)] => if depth = 0 then none else name.map (·, some (depth - 1, d))
  | _ => none

def string? : Document → Option String
  | .string s => s
  | _ => none

def bool? : Document → Option Bool
  | .bool b => some b
  | _ => none

/-- The integer of 64 bits with a sign that a document is. -/
def int64? : Document → Option Int64
  | .number n =>
    match Value.integer? n with
    | some i => if i.val < signedLimit then some (Int64.ofInt i.val) else none
    | none => none
  | _ => none

/-- The integer of 64 bits without a sign that a document is. -/
def natural? : Document → Option Nat
  | .number n =>
    match Value.integer? n with
    | some i => if 0 ≤ i.val then some i.val.toNat else none
    | none => none
  | _ => none

/-- Nothing for null, and what `decode` makes of any other document. -/
def optional? {α : Type} (decode : Document → Option α) : Document → Option (Option α)
  | .null => some none
  | d => (decode d).map some

def list? {α : Type} (depth : Nat) (decode : Nat → Document → Option α) : Document → Option (List α)
  | .array items => if depth = 0 then none else items.mapM (decode (depth - 1))
  | _ => none

/-- The set of the strings in an array. -/
def keySet? (depth : Nat) (d : Document) : Option KeySet :=
  (d.list? depth fun _ => string?).map KeySet.ofList

/-- The map of the members of an object; of several with one name the last counts. -/
def cellMap? (depth : Nat) : Document → Option (KeyMap Cell)
  | .object members =>
    if depth = 0 then none
    else do
      let entries ← members.mapM fun (name, d) => do
        let name ← name
        let cell ← Cell.ofDocument? (depth - 1) d
        some (name, cell)
      some (KeyMap.ofList entries)
  | _ => none

def choice? {α : Type} (depth : Nat) (names : List (String × α)) (d : Document) : Option α := do
  let (name, content) ← d.variant? depth
  match content with
  | none => valueAt name names
  | some (_, .null) => valueAt name names
  | _ => none

end Document

def required? {α : Type} (field : String → Option Document) (name : String)
    (decode : Document → Option α) : Option α :=
  (field name).bind decode

def given? {α : Type} (field : String → Option Document) (name : String) (default : α)
    (decode : Document → Option α) : Option α :=
  match field name with
  | none => some default
  | some d => decode d

def keySetDocument (s : KeySet) : Document := .texts s.toList

def cellMapDocument (m : KeyMap Cell) : Document :=
  .record (m.toList.map fun (name, c) => (name, c.value.toDocument))

end RunTable.Json
