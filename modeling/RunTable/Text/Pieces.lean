/-!
Cutting and searching text. A text is looked at as its list of characters. The laws say that
cutting a text at a separator in it cuts its two sides separately (`pieces_append`,
`splitFirst_append`), and that `occurs` is contiguous containment (`occurs_iff`).
-/

namespace RunTable.Text

def blank (c : Char) : Bool :=
  (9 ≤ c.toNat && c.toNat ≤ 13) || c.toNat == 0x20 || c.toNat == 0x85 || c.toNat == 0xA0 ||
  c.toNat == 0x1680 || (0x2000 ≤ c.toNat && c.toNat ≤ 0x200A) || c.toNat == 0x2028 ||
  c.toNat == 0x2029 || c.toNat == 0x202F || c.toNat == 0x205F || c.toNat == 0x3000

/-- A text without the characters of `strip` at either end. -/
def trimBoth (strip : Char → Bool) (s : List Char) : List Char :=
  ((s.dropWhile strip).reverse.dropWhile strip).reverse

/-- A text without blank characters at either end. -/
def trim (s : List Char) : List Char := trimBoth blank s

/-- The pieces of a text between the separators; always at least one. -/
def pieces (separator : Char) : List Char → List (List Char)
  | [] => [[]]
  | c :: rest =>
    if c = separator then [] :: pieces separator rest
    else match pieces separator rest with
      | [] => [[c]]
      | piece :: others => (c :: piece) :: others

theorem pieces_ne_nil (separator : Char) (s : List Char) : pieces separator s ≠ [] := by
  cases s with
  | nil => simp [pieces]
  | cons c rest =>
    simp only [pieces]
    split
    · simp
    · split <;> simp

theorem pieces_append (separator : Char) (a b : List Char) :
    pieces separator (a ++ separator :: b) = pieces separator a ++ pieces separator b := by
  induction a with
  | nil => simp [pieces]
  | cons c rest ih =>
    simp only [List.cons_append, pieces, ih]
    split
    · rfl
    · cases h : pieces separator rest with
      | nil => exact absurd h (pieces_ne_nil separator rest)
      | cons piece others => rfl

/-- What stands before and after the first separator, if there is one. -/
def splitFirst (separator : Char) : List Char → Option (List Char × List Char)
  | [] => none
  | c :: rest =>
    if c = separator then some ([], rest)
    else (splitFirst separator rest).map fun (before, after) => (c :: before, after)

theorem splitFirst_append {separator : Char} {a : List Char} (h : separator ∉ a) (b : List Char) :
    splitFirst separator (a ++ separator :: b) = some (a, b) := by
  induction a with
  | nil => simp [splitFirst]
  | cons c rest ih =>
    simp only [List.mem_cons, not_or] at h
    simp [splitFirst, ih h.2, Ne.symm h.1]

/-- Whether the pattern stands somewhere in the text, in one piece. -/
def occurs (pattern : List Char) : List Char → Bool
  | [] => pattern.isEmpty
  | c :: rest => pattern.isPrefixOf (c :: rest) || occurs pattern rest

theorem occurs_iff {pattern s : List Char} : occurs pattern s = true ↔ pattern <:+: s := by
  induction s with
  | nil => simp [occurs]
  | cons c rest ih => simp [occurs, ih, List.infix_cons_iff]

/-- The letters A to Z in lower case, all else unchanged. -/
def asciiLower (s : List Char) : List Char := s.map Char.toLower

end RunTable.Text
