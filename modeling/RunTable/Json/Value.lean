import RunTable.KeyMap
import RunTable.Number.Layout
import RunTable.Json.Writer

/-!
The values that documents stand for. A number without point and power of ten that fits into 64
bits is an integer, any other is a floating-point number. Objects have their members in ascending
order of names, the last of several members with one name counting. A document that holds a number
beyond the largest one, a string without characters, or too many levels of nesting has no value.
-/

namespace RunTable.Json

/-- An integer that fits into 64 bits, with or without a sign. -/
structure WideInt where
  val : Int
  lower : -signedLimit ≤ val
  upper : val < wordLimit
  deriving DecidableEq

/-- An integer, if it fits into 64 bits. -/
def WideInt.ofInt? (n : Int) : Option WideInt :=
  if h : -signedLimit ≤ n ∧ n < wordLimit then some ⟨n, h.1, h.2⟩ else none

/-- A JSON value. -/
inductive Value where
  | null
  | bool (b : Bool)
  | integer (n : WideInt)
  | double (d : Double)
  | string (s : String)
  | array (items : List Value)
  | object (members : List (String × Value))

namespace Value

instance : Inhabited Value := ⟨.null⟩

mutual

def decEq : (a b : Value) → Decidable (a = b)
  | .null, .null => isTrue rfl
  | .bool a, .bool b => if h : a = b then isTrue (h ▸ rfl) else isFalse fun e => h (by cases e; rfl)
  | .integer a, .integer b =>
    if h : a = b then isTrue (h ▸ rfl) else isFalse fun e => h (by cases e; rfl)
  | .double a, .double b =>
    if h : a = b then isTrue (h ▸ rfl) else isFalse fun e => h (by cases e; rfl)
  | .string a, .string b =>
    if h : a = b then isTrue (h ▸ rfl) else isFalse fun e => h (by cases e; rfl)
  | .array a, .array b =>
    match decEqItems a b with
    | isTrue h => isTrue (h ▸ rfl)
    | isFalse h => isFalse fun e => h (by cases e; rfl)
  | .object a, .object b =>
    match decEqMembers a b with
    | isTrue h => isTrue (h ▸ rfl)
    | isFalse h => isFalse fun e => h (by cases e; rfl)
  | .null, .bool _ | .null, .integer _ | .null, .double _ | .null, .string _ | .null, .array _
  | .null, .object _ | .bool _, .null | .bool _, .integer _ | .bool _, .double _
  | .bool _, .string _ | .bool _, .array _ | .bool _, .object _ | .integer _, .null
  | .integer _, .bool _ | .integer _, .double _ | .integer _, .string _ | .integer _, .array _
  | .integer _, .object _ | .double _, .null | .double _, .bool _ | .double _, .integer _
  | .double _, .string _ | .double _, .array _ | .double _, .object _ | .string _, .null
  | .string _, .bool _ | .string _, .integer _ | .string _, .double _ | .string _, .array _
  | .string _, .object _ | .array _, .null | .array _, .bool _ | .array _, .integer _
  | .array _, .double _ | .array _, .string _ | .array _, .object _ | .object _, .null
  | .object _, .bool _ | .object _, .integer _ | .object _, .double _ | .object _, .string _
  | .object _, .array _ => isFalse (by intro e; cases e)

def decEqItems : (a b : List Value) → Decidable (a = b)
  | [], [] => isTrue rfl
  | [], _ :: _ => isFalse (by intro e; cases e)
  | _ :: _, [] => isFalse (by intro e; cases e)
  | a :: as, b :: bs =>
    match decEq a b, decEqItems as bs with
    | isTrue h, isTrue h' => isTrue (h ▸ h' ▸ rfl)
    | isFalse h, _ => isFalse fun e => h (by cases e; rfl)
    | _, isFalse h => isFalse fun e => h (by cases e; rfl)

def decEqMembers : (a b : List (String × Value)) → Decidable (a = b)
  | [], [] => isTrue rfl
  | [], _ :: _ => isFalse (by intro e; cases e)
  | _ :: _, [] => isFalse (by intro e; cases e)
  | (k, a) :: as, (l, b) :: bs =>
    if hk : k = l then
      match decEq a b, decEqMembers as bs with
      | isTrue h, isTrue h' => isTrue (hk ▸ h ▸ h' ▸ rfl)
      | isFalse h, _ => isFalse fun e => h (by cases e; rfl)
      | _, isFalse h => isFalse fun e => h (by cases e; rfl)
    else isFalse fun e => hk (by cases e; rfl)

end

instance : DecidableEq Value := decEq

/-- The integer that a numeral writes: it has neither point nor power of ten, fits into 64 bits,
and is no negative zero. -/
def integer? (n : Numeral) : Option WideInt :=
  if n.fraction ≠ [] ∨ n.exponent ≠ none then none
  else if n.negative then
    if spelled n.whole = 0 then none else WideInt.ofInt? (-spelled n.whole)
  else WideInt.ofInt? (spelled n.whole)

/-- The floating-point number that a numeral writes, unless it is beyond the largest one. The
significant digits are those that fit into 64 bits; each further digit of the whole part counts as
a power of ten. -/
def double? (n : Numeral) : Option Double :=
  let (whole, overflow) := Numeral.absorb 0 n.whole
  let (significand, unused) := Numeral.absorb whole n.fraction
  let used := n.fraction.length - unused.length
  (Numeral.scaledPlace? significand (overflow.length - used + n.exponent.getD 0)).bind
    (Double.atPlace? n.negative)

def ofNumeral? (n : Numeral) : Option Value :=
  match integer? n with
  | some i => some (.integer i)
  | none => (double? n).map .double

mutual

def toDocument : Value → Document
  | .null => .null
  | .bool b => .bool b
  | .integer n => .number (Numeral.ofInt n.val)
  | .double d => .number (Numeral.ofDouble d)
  | .string s => .text s
  | .array items => .array (itemDocuments items)
  | .object members => .object (memberDocuments members)

def itemDocuments : List Value → List Document
  | [] => []
  | v :: rest => v.toDocument :: itemDocuments rest

def memberDocuments : List (String × Value) → List (Option String × Document)
  | [] => []
  | (name, v) :: rest => (some name, v.toDocument) :: memberDocuments rest

end

/-- Members in ascending order of names, of several with one name the last. -/
def sortMembers (members : List (String × Value)) : List (String × Value) :=
  members.foldl (fun es e => insertEntry e.1 e.2 es) []

mutual

/-- The value of a document with at most `depth` levels of nesting. -/
def ofDocument? (depth : Nat) : Document → Option Value
  | .null => some .null
  | .bool b => some (.bool b)
  | .number n => ofNumeral? n
  | .string s => s.map .string
  | .array items =>
    if depth = 0 then none else (itemsOf? (depth - 1) items).map .array
  | .object members =>
    if depth = 0 then none
    else (membersOf? (depth - 1) members).map fun members => .object (sortMembers members)

def itemsOf? (depth : Nat) : List Document → Option (List Value)
  | [] => some []
  | d :: rest => do
    let v ← ofDocument? depth d
    let vs ← itemsOf? depth rest
    some (v :: vs)

def membersOf? (depth : Nat) : List (Option String × Document) → Option (List (String × Value))
  | [] => some []
  | (name, d) :: rest => do
    let name ← name
    let v ← ofDocument? depth d
    let vs ← membersOf? depth rest
    some ((name, v) :: vs)

end

/-- The text of a value, in one line. -/
def write (v : Value) : String := v.toDocument.write

end Value

/-- The most levels of nesting that a document may have. -/
def nestingLimit : Nat := 127

def Value.read? (s : String) : Option Value :=
  (Document.read? s).bind (Value.ofDocument? nestingLimit)

end RunTable.Json
