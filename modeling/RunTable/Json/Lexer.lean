import RunTable.Json.Document
import RunTable.Json.StringLiteral

/-!
The text of tokens, and the tokens of a text. Blanks between tokens are skipped. A token is read
from the front of a text and leaves less of it (`Token.read?_length`), so the reading ends.
-/

namespace RunTable.Json

/-- The text of a token. A string without characters of its own is written as an empty one. -/
def Token.write : Token → List Char
  | .openArray => ['[']
  | .closeArray => [']']
  | .openObject => ['\x7b']
  | .closeObject => ['\x7d']
  | .comma => [',']
  | .colon => [':']
  | .null => ['n', 'u', 'l', 'l']
  | .bool true => ['t', 'r', 'u', 'e']
  | .bool false => ['f', 'a', 'l', 's', 'e']
  | .number n => n.write
  | .string (some s) => writeString s.toList
  | .string none => writeString []

/-- What follows a word at the front of a text. -/
def afterWord? : List Char → List Char → Option (List Char)
  | [], s => some s
  | w :: ws, c :: s => if w = c then afterWord? ws s else none
  | _ :: _, [] => none

def Token.ofMark? (c : Char) : Option Token :=
  if c = '[' then some .openArray
  else if c = ']' then some .closeArray
  else if c = '\x7b' then some .openObject
  else if c = '\x7d' then some .closeObject
  else if c = ',' then some .comma
  else if c = ':' then some .colon
  else none

/-- Reads a token of more than one character, given the first one. -/
def Token.readLong? (c : Char) (rest : List Char) : Option (Token × List Char) :=
  if c = '"' then
    (readPieces? rest).map fun (pieces, rest) =>
      (.string ((joinPieces? pieces).map String.ofList), rest)
  else if c = 'n' then (afterWord? ['u', 'l', 'l'] rest).map (.null, ·)
  else if c = 't' then (afterWord? ['r', 'u', 'e'] rest).map (.bool true, ·)
  else if c = 'f' then (afterWord? ['a', 'l', 's', 'e'] rest).map (.bool false, ·)
  else (Numeral.read? (c :: rest)).map fun (n, rest) => (.number n, rest)

/-- Reads one token at the front of a text. -/
def Token.read? : List Char → Option (Token × List Char)
  | [] => none
  | c :: rest =>
    match Token.ofMark? c with
    | some t => some (t, rest)
    | none => Token.readLong? c rest

theorem afterWord?_length {w s rest : List Char} (h : afterWord? w s = some rest) :
    rest.length ≤ s.length := by
  induction w generalizing s with
  | nil => cases h; exact Nat.le_refl _
  | cons c w ih =>
    cases s with
    | nil => cases h
    | cons d s =>
      simp only [afterWord?] at h
      split at h
      · exact Nat.le_succ_of_le (ih h)
      · cases h

theorem Token.readLong?_length {c : Char} {s rest : List Char} {t : Token}
    (h : Token.readLong? c s = some (t, rest)) : rest.length < (c :: s).length := by
  simp only [Token.readLong?] at h
  split at h
  · obtain ⟨r, hr, he⟩ := Option.map_eq_some_iff.1 h
    cases he
    exact Nat.lt_succ_of_lt (readPieces?_length hr)
  iterate 3
    split at h
    · obtain ⟨r, hr, he⟩ := Option.map_eq_some_iff.1 h
      cases he
      exact Nat.lt_succ_of_le (afterWord?_length hr)
  obtain ⟨r, hr, he⟩ := Option.map_eq_some_iff.1 h
  cases he
  exact Numeral.read?_length hr

/-- What follows a token is shorter than the text. -/
theorem Token.read?_length {s rest : List Char} {t : Token} (h : Token.read? s = some (t, rest)) :
    rest.length < s.length := by
  cases s with
  | nil => cases h
  | cons c s =>
    simp only [Token.read?] at h
    split at h
    · cases h; simp
    · exact Token.readLong?_length h

def isSpace (c : Char) : Bool := c == ' ' || c == '\t' || c == '\n' || c == '\r'

def tokens? (s : List Char) : Option (List Token) :=
  match s with
  | [] => some []
  | c :: rest =>
    if isSpace c then tokens? rest
    else match _h : Token.read? (c :: rest) with
      | none => none
      | some (t, rest') => (tokens? rest').map (t :: ·)
termination_by s.length
decreasing_by
  · simp
  · exact Token.read?_length ‹_›

end RunTable.Json
