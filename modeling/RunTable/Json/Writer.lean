import RunTable.Json.Reader

/-!
Writing documents: in one line without blanks, or with one item or member to a line. Main
statement: what is written in one line reads back (`Document.read?_write`), provided every number
is a proper numeral and every string has characters.
-/

namespace RunTable.Json

def Document.write (d : Document) : String := String.ofList (d.tokens.flatMap Token.write)

/-- A line break with so many steps of indentation, two blanks each. -/
def newline (depth : Nat) : List Char := '\n' :: List.replicate (2 * depth) ' '

def withCommas : List (List Char) → List Char
  | [] => []
  | [s] => s
  | s :: rest => s ++ ',' :: withCommas rest

/-- Lines between brackets, each after a comma but the first; brackets alone without lines. -/
def block (opening closing : Char) (depth : Nat) (lines : List (List Char)) : List Char :=
  if lines.isEmpty then [opening, closing]
  else opening :: withCommas lines ++ newline depth ++ [closing]

mutual

/-- A document with one item or member to a line, each level of nesting one step further in. -/
def prettyChars (depth : Nat) : Document → List Char
  | .null => Token.write .null
  | .bool b => Token.write (.bool b)
  | .number n => Token.write (.number n)
  | .string s => Token.write (.string s)
  | .array items => block '[' ']' depth (prettyItems (depth + 1) items)
  | .object members => block '\x7b' '\x7d' depth (prettyMembers (depth + 1) members)

def prettyItems (depth : Nat) : List Document → List (List Char)
  | [] => []
  | d :: rest => (newline depth ++ prettyChars depth d) :: prettyItems depth rest

def prettyMembers (depth : Nat) : List (Option String × Document) → List (List Char)
  | [] => []
  | (name, d) :: rest =>
    (newline depth ++ Token.write (.string name) ++ ':' :: ' ' :: prettyChars depth d) ::
      prettyMembers depth rest

end

def Document.pretty (d : Document) : String := String.ofList (prettyChars 0 d)

/-- A token that can be written and read back. -/
def Token.Proper : Token → Prop
  | .number n => n.Proper
  | .string s => s.isSome = true
  | _ => True

/-- The tokens after which a number may stand end it. -/
def EndsNumber (ts : List Token) : Prop :=
  ∀ t ∈ ts.head?, t = .comma ∨ t = .closeArray ∨ t = .closeObject

/-- No number is followed by a token that could continue it. -/
def Spaced : List Token → Prop
  | [] => True
  | t :: ts => (∀ n, t = .number n → EndsNumber ts) ∧ Spaced ts

theorem ends_of_endsNumber {ts : List Token} (h : EndsNumber ts) :
    Numeral.Ends (ts.flatMap Token.write) := by
  cases ts with
  | nil => intro c hc; simp at hc
  | cons t ts =>
    intro c hc
    rcases h t (by simp) with rfl | rfl | rfl <;>
    · simp [Token.write] at hc
      subst hc
      decide

theorem numeral_head {n : Numeral} (hn : n.Proper) :
    ∃ c s, n.write = c :: s ∧ (c = '-' ∨ ∃ d : Digit, c = d.char) := by
  obtain ⟨negative, whole, fraction, exponent⟩ := n
  have hw : ∃ d ds, whole = d :: ds := by
    rcases hn with h | ⟨d, ds, h, _⟩
    · exact ⟨.zero, [], h⟩
    · exact ⟨d, ds, h⟩
  obtain ⟨d, ds, rfl⟩ := hw
  cases negative with
  | true => exact ⟨'-', _, rfl, Or.inl rfl⟩
  | false => exact ⟨d.char, _, rfl, Or.inr ⟨d, rfl⟩⟩

/-- A written token reads back, whatever follows that could not continue it. -/
theorem Token.read?_write {t : Token} (ht : t.Proper) {rest : List Char}
    (hr : ∀ n, t = .number n → Numeral.Ends rest) :
    Token.read? (t.write ++ rest) = some (t, rest) := by
  cases t with
  | openArray | closeArray | openObject | closeObject | comma | colon =>
    simp [write, read?, ofMark?]
  | null => simp [write, read?, ofMark?, readLong?, afterWord?]
  | bool b => cases b <;> simp [write, read?, ofMark?, readLong?, afterWord?]
  | string s =>
    cases s with
    | none => cases ht
    | some s =>
      simp [write, read?, ofMark?, readLong?, writeString, readPieces?_write,
        joinPieces?_map_pieceOf]
  | number n =>
    obtain ⟨c, s, hs, hc⟩ := numeral_head ht
    have hread := Numeral.read?_write ht (hr n rfl)
    simp only [write]
    rw [hs, List.cons_append] at hread ⊢
    have hplain : c ≠ '[' ∧ c ≠ ']' ∧ c ≠ '\x7b' ∧ c ≠ '\x7d' ∧ c ≠ ',' ∧ c ≠ ':' ∧ c ≠ '"' ∧
        c ≠ 'n' ∧ c ≠ 't' ∧ c ≠ 'f' := by
      rcases hc with rfl | ⟨d, rfl⟩
      · decide
      · clear hread hs; revert d; decide
    obtain ⟨h₁, h₂, h₃, h₄, h₅, h₆, h₇, h₈, h₉, h₁₀⟩ := hplain
    simp only [read?, ofMark?, readLong?, h₁, h₂, h₃, h₄, h₅, h₆, h₇, h₈, h₉, h₁₀, if_false, hread,
      Option.map_some]

theorem Token.write_head {t : Token} (ht : t.Proper) :
    ∃ c s, t.write = c :: s ∧ isSpace c = false := by
  cases t with
  | openArray | closeArray | openObject | closeObject | comma | colon | null =>
    exact ⟨_, _, rfl, by decide⟩
  | bool b => cases b <;> exact ⟨_, _, rfl, by decide⟩
  | string s => cases s <;> exact ⟨_, _, rfl, by decide⟩
  | number n =>
    obtain ⟨c, s, hs, hc⟩ := numeral_head ht
    refine ⟨c, s, hs, ?_⟩
    rcases hc with rfl | ⟨d, rfl⟩
    · decide
    · clear hs; revert d; decide

/-- The tokens of a written list of tokens are these tokens. -/
theorem tokens?_write {ts : List Token} (hp : ∀ t ∈ ts, t.Proper) (hs : Spaced ts) :
    tokens? (ts.flatMap Token.write) = some ts := by
  induction ts with
  | nil => rw [List.flatMap_nil, tokens?]
  | cons t ts ih =>
    have ht := hp t List.mem_cons_self
    obtain ⟨c, s, hcs, hc⟩ := Token.write_head ht
    have hread := @Token.read?_write _ ht (ts.flatMap Token.write)
      fun n hn => ends_of_endsNumber (hs.1 n hn)
    have hrest := ih (fun u hu => hp u (List.mem_cons_of_mem _ hu)) hs.2
    rw [List.flatMap_cons]
    rw [hcs, List.cons_append] at hread ⊢
    rw [tokens?]
    simp only [hc, Bool.false_eq_true, if_false]
    split
    · next h => rw [hread] at h; cases h
    · next h => rw [hread] at h; cases h; rw [hrest]; rfl

mutual

theorem spaced_tokens (d : Document) {rest : List Token} (he : EndsNumber rest) (hs : Spaced rest) :
    Spaced (d.tokens ++ rest) := by
  cases d with
  | null | bool | string => simpa [Document.tokens, Spaced] using hs
  | number => simpa [Document.tokens, Spaced] using ⟨he, hs⟩
  | array items =>
    simpa [Document.tokens, Spaced] using spaced_itemTokens items he hs
  | object members =>
    simpa [Document.tokens, Spaced] using spaced_memberTokens members he hs

theorem spaced_itemTokens (items : List Document) {rest : List Token} (he : EndsNumber rest)
    (hs : Spaced rest) : Spaced (itemTokens items ++ rest) := by
  cases items with
  | nil => simpa [itemTokens, Spaced] using hs
  | cons d items =>
    rw [itemTokens, List.append_assoc]
    have := spaced_moreItemTokens items he hs
    exact spaced_tokens d this.1 this.2

theorem spaced_moreItemTokens (items : List Document) {rest : List Token} (he : EndsNumber rest)
    (hs : Spaced rest) :
    EndsNumber (moreItemTokens items ++ rest) ∧ Spaced (moreItemTokens items ++ rest) := by
  cases items with
  | nil => simpa [moreItemTokens, Spaced, EndsNumber] using hs
  | cons d items =>
    have := spaced_moreItemTokens items he hs
    simpa [moreItemTokens, Spaced, EndsNumber] using spaced_tokens d this.1 this.2

theorem spaced_memberTokens (members : List (Option String × Document)) {rest : List Token}
    (he : EndsNumber rest) (hs : Spaced rest) : Spaced (memberTokens members ++ rest) := by
  cases members with
  | nil => simpa [memberTokens, Spaced] using hs
  | cons m members =>
    obtain ⟨name, d⟩ := m
    have := spaced_moreMemberTokens members he hs
    simpa [memberTokens, Spaced] using spaced_tokens d this.1 this.2

theorem spaced_moreMemberTokens (members : List (Option String × Document)) {rest : List Token}
    (he : EndsNumber rest) (hs : Spaced rest) :
    EndsNumber (moreMemberTokens members ++ rest) ∧ Spaced (moreMemberTokens members ++ rest) := by
  cases members with
  | nil => simpa [moreMemberTokens, Spaced, EndsNumber] using hs
  | cons m members =>
    obtain ⟨name, d⟩ := m
    have := spaced_moreMemberTokens members he hs
    simpa [moreMemberTokens, Spaced, EndsNumber] using spaced_tokens d this.1 this.2

end

/-- A document written in one line reads back. -/
theorem Document.read?_write {d : Document} (h : ∀ t ∈ d.tokens, t.Proper) :
    Document.read? d.write = some d := by
  have hs : Spaced d.tokens := by
    have := @spaced_tokens d [] (by simp [EndsNumber]) trivial
    simpa using this
  simp [read?, write, tokens?_write h hs, ofTokens?_tokens]

end RunTable.Json
