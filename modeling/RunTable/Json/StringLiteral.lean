import RunTable.Number.Digits

/-!
String literals. Written text escapes the quote, the backslash and the controls, and nothing else.
A literal is read in two steps: first its pieces, which are characters or sixteen-bit units
written as `\u` and four digits, then the characters, for which two units may have to pair up.
Main statement: a written text reads back (`readPieces?_write`,
`joinPieces?_map_pieceOf`).
-/

namespace RunTable.Json

/-- A piece of a string literal: a character, or a unit of sixteen bits. -/
inductive Piece where
  | char (c : Char)
  | unit (n : Nat)
  deriving DecidableEq

/-- The character of a hexadecimal digit, letters in lower case. -/
def hexChar (n : Nat) : Char := Nat.digitChar (n % 16)

/-- The value of a hexadecimal digit, in either case of letters. -/
def hexValue? (c : Char) : Option Nat :=
  let n := c.toNat
  if 48 ≤ n ∧ n < 58 then some (n - 48)
  else if 97 ≤ n ∧ n < 103 then some (n - 87)
  else if 65 ≤ n ∧ n < 71 then some (n - 55)
  else none

def unit? (a b c d : Char) : Option Nat := do
  let a ← hexValue? a
  let b ← hexValue? b
  let c ← hexValue? c
  let d ← hexValue? d
  some (a * 4096 + b * 256 + c * 16 + d)

/-- The letter that stands for a control in an escape. -/
def controlLetter? (c : Char) : Option Char :=
  match c.toNat with
  | 8 => some 'b'
  | 9 => some 't'
  | 10 => some 'n'
  | 12 => some 'f'
  | 13 => some 'r'
  | _ => none

/-- What one character of an escape after the backslash stands for. -/
def escaped? : Char → Option Char
  | '"' => some '"'
  | '\\' => some '\\'
  | '/' => some '/'
  | 'b' => some '\x08'
  | 'f' => some '\x0c'
  | 'n' => some '\n'
  | 'r' => some '\r'
  | 't' => some '\t'
  | _ => none

def writeChar (c : Char) : List Char :=
  if c = '"' ∨ c = '\\' then ['\\', c]
  else if c.toNat < 0x20 then
    match controlLetter? c with
    | some letter => ['\\', letter]
    | none => ['\\', 'u', '0', '0', hexChar (c.toNat / 16), hexChar c.toNat]
  else [c]

/-- The literal of a text, with its quotes. -/
def writeString (s : List Char) : List Char := '"' :: s.flatMap writeChar ++ ['"']

/-- Puts a piece in front of those that were read. -/
def addPiece (p : Piece) (r : Option (List Piece × List Char)) : Option (List Piece × List Char) :=
  r.map fun (pieces, rest) => (p :: pieces, rest)

/-- Reads the pieces of a literal up to its closing quote, the opening one having been read. -/
def readPieces? : List Char → Option (List Piece × List Char)
  | [] => none
  | c :: rest =>
    if c = '"' then some ([], rest)
    else if c = '\\' then
      match rest with
      | [] => none
      | e :: rest =>
        if e = 'u' then
          match rest with
          | a :: b :: c :: d :: rest =>
            (unit? a b c d).bind fun n => addPiece (.unit n) (readPieces? rest)
          | _ => none
        else (escaped? e).bind fun c => addPiece (.char c) (readPieces? rest)
    else if c.toNat < 0x20 then none
    else addPiece (.char c) (readPieces? rest)

/-- Whether a unit is the first half of a pair. -/
def isHighHalf (n : Nat) : Bool := 0xD800 ≤ n && n < 0xDC00

/-- Whether a unit is the second half of a pair. -/
def isLowHalf (n : Nat) : Bool := 0xDC00 ≤ n && n < 0xE000

/-- The characters of a literal, unless some half of a pair stands alone. -/
def joinPieces? : List Piece → Option (List Char)
  | [] => some []
  | .char c :: rest => (joinPieces? rest).map (c :: ·)
  | .unit n :: rest =>
    if isLowHalf n then none
    else if isHighHalf n then
      match rest with
      | .unit m :: rest =>
        if isLowHalf m then
          (joinPieces? rest).map
            (Char.ofNat (0x10000 + (n - 0xD800) * 0x400 + (m - 0xDC00)) :: ·)
        else none
      | _ => none
    else (joinPieces? rest).map (Char.ofNat n :: ·)

/-- The escape of a control stands for that control. -/
theorem escape_control (n : Fin 0x20) :
    (match controlLetter? (Char.ofNat n) with
      | some letter => escaped? letter == some (Char.ofNat n) && letter != 'u'
      | none => unit? '0' '0' (hexChar (n / 16)) (hexChar n) == some n.val) = true := by
  revert n; decide

/-- The piece that stands for a character in a written literal. -/
def pieceOf (c : Char) : Piece :=
  if c.toNat < 0x20 ∧ controlLetter? c = none then .unit c.toNat else .char c

/-- A character is read back from its written form as the piece that stands for it. -/
theorem readPieces?_writeChar (c : Char) (rest : List Char) :
    readPieces? (writeChar c ++ rest) = addPiece (pieceOf c) (readPieces? rest) := by
  have hq : ('\\' : Char) ≠ '"' := by decide
  unfold writeChar pieceOf
  split
  · next h =>
    have he : escaped? c = some c := by rcases h with rfl | rfl <;> rfl
    have hu : c ≠ 'u' := by rcases h with rfl | rfl <;> decide
    have hp : ¬(c.toNat < 0x20 ∧ controlLetter? c = none) := by
      rcases h with rfl | rfl <;> decide
    simp only [List.cons_append, List.nil_append]
    rw [readPieces?.eq_def]
    simp only [hu, he, hp, hq, if_false, if_true, Option.bind_some]
  · next h =>
    simp only [not_or] at h
    split
    · next hc =>
      have key := escape_control ⟨c.toNat, hc⟩
      simp only [Char.ofNat_toNat] at key
      cases hl : controlLetter? c with
      | some letter =>
        simp only [hl, Bool.and_eq_true, beq_iff_eq, bne_iff_ne] at key
        simp only [List.cons_append, List.nil_append]
        rw [readPieces?.eq_def]
        simp only [key.1, key.2, hq, if_false, if_true, Option.bind_some, reduceCtorEq, and_false]
      | none =>
        simp only [hl, beq_iff_eq] at key
        simp only [List.cons_append, List.nil_append]
        rw [readPieces?.eq_def]
        simp only [key, hc, hq, if_false, if_true, Option.bind_some, and_true]
    · next hc =>
      rw [List.cons_append, List.nil_append, readPieces?.eq_def]
      simp only [h.1, h.2, hc, if_false, false_and]

/-- The pieces of a written text read back up to its closing quote. -/
theorem readPieces?_write (s rest : List Char) :
    readPieces? (s.flatMap writeChar ++ '"' :: rest) = some (s.map pieceOf, rest) := by
  induction s with
  | nil =>
    show readPieces? ('"' :: rest) = some ([], rest)
    rw [readPieces?.eq_def]; rfl
  | cons c s ih =>
    rw [List.flatMap_cons, List.append_assoc, readPieces?_writeChar, ih]
    rfl

/-- The pieces of a written text join to that text. -/
theorem joinPieces?_map_pieceOf (s : List Char) : joinPieces? (s.map pieceOf) = some s := by
  induction s with
  | nil => rfl
  | cons c s ih =>
    rw [List.map_cons, pieceOf]
    split
    · next h =>
      have hl : isLowHalf c.toNat = false := by simp only [isLowHalf]; grind
      have hh : isHighHalf c.toNat = false := by simp only [isHighHalf]; grind
      rw [joinPieces?.eq_def]
      simp only [hl, hh, ih, Bool.false_eq_true, if_false, Option.map_some, Char.ofNat_toNat]
    · rw [joinPieces?.eq_def]
      simp only [ih, Option.map_some]

theorem addPiece_eq_some {p : Piece} {r : Option (List Piece × List Char)} {pieces : List Piece}
    {rest : List Char} (h : addPiece p r = some (pieces, rest)) :
    ∃ more, r = some (more, rest) := by
  obtain ⟨⟨more, rest'⟩, hr, he⟩ := Option.map_eq_some_iff.1 h
  cases he
  exact ⟨more, hr⟩

/-- What follows a literal is shorter than the text. -/
theorem readPieces?_length {s rest : List Char} {pieces : List Piece}
    (h : readPieces? s = some (pieces, rest)) : rest.length < s.length := by
  fun_induction readPieces? s generalizing pieces rest with
  | case1 | case3 | case5 | case7 => cases h
  | case2 => cases h; simp
  | case4 =>
    rename_i ih
    obtain ⟨_, _, hn⟩ := Option.bind_eq_some_iff.1 h
    obtain ⟨_, hm⟩ := addPiece_eq_some hn
    have := ih hm
    simp only [List.length_cons]; omega
  | case6 =>
    rename_i ih
    obtain ⟨_, _, hn⟩ := Option.bind_eq_some_iff.1 h
    obtain ⟨_, hm⟩ := addPiece_eq_some hn
    have := ih hm
    simp only [List.length_cons]; omega
  | case8 =>
    rename_i ih
    obtain ⟨_, hm⟩ := addPiece_eq_some h
    have := ih hm
    simp only [List.length_cons]; omega

end RunTable.Json
