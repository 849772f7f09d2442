import RunTable.Text.CaseTable

/-!
Lower-casing of a whole text. Every letter goes to its lower-case partner by the table, with two
exceptions: capital sigma becomes final sigma at the end of a word and plain sigma elsewhere, and
capital i with a dot becomes an `i` and a combining dot. So the result may be longer than the
text, and what a sigma becomes depends on its neighbours.
-/

namespace RunTable.Text

def inRanges (ranges : List (Nat × Nat)) (c : Char) : Bool :=
  ranges.any fun (first, last) => first ≤ c.toNat && c.toNat ≤ last

def cased (c : Char) : Bool := inRanges casedRanges c

def caseIgnorable (c : Char) : Bool := inRanges caseIgnorableRanges c

/-- Whether the first character that case rules do not pass over has a letter case. -/
def casedAhead (s : List Char) : Bool :=
  match s.dropWhile caseIgnorable with
  | [] => false
  | c :: _ => cased c

/-- Whether a letter ends a word, given what stands before it, nearest first, and after it. -/
def endsWord (before after : List Char) : Bool := casedAhead before && !casedAhead after

def CaseRun.covers (run : CaseRun) (n : Nat) : Bool :=
  run.first ≤ n && n ≤ run.last && (n - run.first) % run.step == 0

def lowerChar (c : Char) : List Char :=
  if c.toNat < 0x80 then [c.toLower]
  else if c = 'İ' then ['i', '\u0307']
  else match caseRuns.find? (·.covers c.toNat) with
    | some run => [Char.ofNat (run.target + (c.toNat - run.first))]
    | none => [c]

/-- The lower-case form of a text that follows `before`, whose nearest character comes first. -/
def lowerAfter (before : List Char) : List Char → List Char
  | [] => []
  | c :: rest =>
    (if c = 'Σ' then [if endsWord before rest then 'ς' else 'σ'] else lowerChar c) ++
      lowerAfter (c :: before) rest

def lower (s : List Char) : List Char := lowerAfter [] s

end RunTable.Text
