import RunTable.Json.Lexer

/-!
Reading a document from its tokens, with a stack of the arrays and objects that are still open. A
token either completes a document, which is then put into the innermost open one, or opens or
closes one. Nesting has no limit here; whoever decodes a document sets one. Main statement: after
the tokens of a document the reader has just completed it (`Reader.run?_tokens`), so the tokens of a
document read back as that document (`Document.ofTokens?_tokens`).
-/

namespace RunTable.Json

/-- An open array or object, with what it holds so far, latest first. -/
inductive Frame where
  | array (done : List Document)
  | object (done : List (Option String × Document)) (name : Option String)

/-- What the reader waits for. -/
inductive Reader where
  /-- A document. -/
  | value (stack : List Frame)
  /-- The first item of an array, or its end. -/
  | firstItem (stack : List Frame)
  /-- The first name of an object, or its end. -/
  | firstName (stack : List Frame)
  /-- The next name of an object that holds `done`. -/
  | nextName (done : List (Option String × Document)) (stack : List Frame)
  /-- The colon after a name. -/
  | colon (done : List (Option String × Document)) (name : Option String) (stack : List Frame)
  /-- What may come after a document. -/
  | completed (d : Document) (stack : List Frame)

namespace Reader

/-- Takes a token where a document has to begin. -/
def beginValue? (stack : List Frame) : Token → Option Reader
  | .null => some (.completed .null stack)
  | .bool b => some (.completed (.bool b) stack)
  | .number n => some (.completed (.number n) stack)
  | .string s => some (.completed (.string s) stack)
  | .openArray => some (.firstItem stack)
  | .openObject => some (.firstName stack)
  | _ => none

/-- Takes a token where a name has to stand. -/
def beginName? (done : List (Option String × Document)) (stack : List Frame) :
    Token → Option Reader
  | .string name => some (.colon done name stack)
  | _ => none

/-- Takes the token after a document in an open array or object. -/
def afterValue? (d : Document) : List Frame → Token → Option Reader
  | .array done :: stack, .comma => some (.value (.array (d :: done) :: stack))
  | .array done :: stack, .closeArray => some (.completed (.array (d :: done).reverse) stack)
  | .object done name :: stack, .comma => some (.nextName ((name, d) :: done) stack)
  | .object done name :: stack, .closeObject =>
    some (.completed (.object ((name, d) :: done).reverse) stack)
  | _, _ => none

def step? : Reader → Token → Option Reader
  | .value stack, t => beginValue? stack t
  | .firstItem stack, t =>
    if t = .closeArray then some (.completed (.array []) stack)
    else beginValue? (.array [] :: stack) t
  | .firstName stack, t =>
    if t = .closeObject then some (.completed (.object []) stack) else beginName? [] stack t
  | .nextName done stack, t => beginName? done stack t
  | .colon done name stack, t =>
    if t = .colon then some (.value (.object done name :: stack)) else none
  | .completed d stack, t => afterValue? d stack t

def run? (r : Reader) : List Token → Option Reader
  | [] => some r
  | t :: ts => (r.step? t).bind (run? · ts)

/-- The document that was read, if it is complete and nothing is open. -/
def result? : Reader → Option Document
  | .completed d [] => some d
  | _ => none

end Reader

def Document.ofTokens? (ts : List Token) : Option Document :=
  ((Reader.value []).run? ts).bind Reader.result?

def Document.read? (s : String) : Option Document :=
  (tokens? s.toList).bind ofTokens?

namespace Reader

theorem run?_append (r : Reader) (ts us : List Token) :
    r.run? (ts ++ us) = (r.run? ts).bind (run? · us) := by
  induction ts generalizing r with
  | nil => rfl
  | cons t ts ih =>
    simp only [List.cons_append, run?]
    cases r.step? t with
    | none => rfl
    | some r' => exact ih r'

/-- An array is not empty where a document begins in it. -/
theorem step?_firstItem {t : Token} (h : t ≠ .closeArray) (stack : List Frame) :
    step? (.firstItem stack) t = step? (.value (.array [] :: stack)) t := by
  simp [step?, h]

theorem tokens_head (d : Document) : ∃ t ts, d.tokens = t :: ts ∧ t ≠ .closeArray := by
  cases d <;> simp [Document.tokens]

mutual

/-- After the tokens of a document the reader has completed it. -/
theorem run?_tokens (d : Document) (stack : List Frame) :
    run? (.value stack) d.tokens = some (.completed d stack) := by
  cases d with
  | null | bool | number | string => simp [Document.tokens, run?, step?, beginValue?]
  | array items =>
    simp only [Document.tokens, run?, step?, beginValue?, Option.bind_some]
    exact run?_itemTokens items stack
  | object members =>
    simp only [Document.tokens, run?, step?, beginValue?, Option.bind_some]
    exact run?_memberTokens members stack

theorem run?_itemTokens (items : List Document) (stack : List Frame) :
    run? (.firstItem stack) (itemTokens items) = some (.completed (.array items) stack) := by
  cases items with
  | nil => rfl
  | cons d rest =>
    have hd := run?_tokens d (.array [] :: stack)
    obtain ⟨t, ts, ht, hne⟩ := tokens_head d
    rw [itemTokens, run?_append]
    have hfirst :
        run? (.firstItem stack) d.tokens = run? (.value (.array [] :: stack)) d.tokens := by
      rw [ht, run?, run?, step?_firstItem hne]
    rw [hfirst, hd, Option.bind_some, run?_moreItemTokens d [] rest stack]
    rfl

theorem run?_moreItemTokens (d : Document) (done items : List Document) (stack : List Frame) :
    run? (.completed d (.array done :: stack)) (moreItemTokens items) =
      some (.completed (.array (done.reverse ++ d :: items)) stack) := by
  cases items with
  | nil => simp [moreItemTokens, run?, step?, afterValue?]
  | cons e rest =>
    simp only [moreItemTokens, List.cons_append, run?, step?, afterValue?, Option.bind_some]
    rw [run?_append, run?_tokens e, Option.bind_some, run?_moreItemTokens e (d :: done) rest stack]
    simp

theorem run?_memberTokens (members : List (Option String × Document)) (stack : List Frame) :
    run? (.firstName stack) (memberTokens members) = some (.completed (.object members) stack) := by
  cases members with
  | nil => rfl
  | cons m rest =>
    obtain ⟨name, d⟩ := m
    simp only [memberTokens, List.cons_append, run?, step?, beginName?, reduceCtorEq, if_false,
      if_true, Option.bind_some]
    rw [run?_append, run?_tokens d, Option.bind_some, run?_moreMemberTokens name d [] rest stack]
    rfl

theorem run?_moreMemberTokens (name : Option String) (d : Document)
    (done members : List (Option String × Document)) (stack : List Frame) :
    run? (.completed d (.object done name :: stack)) (moreMemberTokens members) =
      some (.completed (.object (done.reverse ++ (name, d) :: members)) stack) := by
  cases members with
  | nil => simp [moreMemberTokens, run?, step?, afterValue?]
  | cons m rest =>
    obtain ⟨name', e⟩ := m
    simp only [moreMemberTokens, List.cons_append, run?, step?, afterValue?, beginName?,
      Option.bind_some, if_true]
    rw [run?_append, run?_tokens e, Option.bind_some,
      run?_moreMemberTokens name' e ((name, d) :: done) rest stack]
    simp

end

end Reader

/-- The tokens of a document spell that document. -/
theorem Document.ofTokens?_tokens (d : Document) : ofTokens? d.tokens = some d := by
  simp [ofTokens?, Reader.run?_tokens, Reader.result?]

end RunTable.Json
