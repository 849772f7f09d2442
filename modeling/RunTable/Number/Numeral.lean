import RunTable.Number.Digits

/-!
Decimal numerals as they are written in a data text: an optional minus sign, a whole part without
needless zeros, and optionally a fraction and a power of ten. Main statement: reading what was
written gives the numeral back (`Numeral.read?_write`).
-/

namespace RunTable

/-- A decimal numeral. No fraction is written when it has no digits. -/
structure Numeral where
  negative : Bool
  whole : List Digit
  fraction : List Digit
  exponent : Option Int
  deriving DecidableEq

namespace Numeral

/-- The whole part has a digit, and begins with zero only if it is zero. -/
def Proper (n : Numeral) : Prop := n.whole = [.zero] ∨ ∃ d ds, n.whole = d :: ds ∧ d ≠ .zero

/-- The text of a power of ten, always with a sign. -/
def writeExponent (e : Int) : List Char :=
  'e' :: (if e < 0 then '-' else '+') :: digitChars (digits e.natAbs)

def write (n : Numeral) : List Char :=
  (if n.negative then ['-'] else []) ++ digitChars n.whole ++
    (if n.fraction.isEmpty then [] else '.' :: digitChars n.fraction) ++
    (match n.exponent with
      | none => []
      | some e => writeExponent e)

def readSign : List Char → Bool × List Char
  | '-' :: rest => (true, rest)
  | s => (false, s)

/-- Reads the whole part. A zero at the front is all of it. -/
def readWhole? : List Char → Option (List Digit × List Char)
  | '0' :: rest => some ([.zero], rest)
  | s =>
    match takeDigits s with
    | ([], _) => none
    | (d :: ds, rest) => some (d :: ds, rest)

/-- Reads an optional point with the digits after it, at least one. -/
def readFraction? : List Char → Option (List Digit × List Char)
  | '.' :: s =>
    match takeDigits s with
    | ([], _) => none
    | (d :: ds, rest) => some (d :: ds, rest)
  | s => some ([], s)

def readPower? (negative : Bool) (s : List Char) : Option (Option Int × List Char) :=
  match takeDigits s with
  | ([], _) => none
  | (d :: ds, rest) =>
    let n : Int := spelled (d :: ds)
    some (some (if negative then -n else n), rest)

def readExponent? : List Char → Option (Option Int × List Char)
  | c :: s =>
    if c = 'e' ∨ c = 'E' then
      match s with
      | '+' :: rest => readPower? false rest
      | '-' :: rest => readPower? true rest
      | rest => readPower? false rest
    else some (none, c :: s)
  | [] => some (none, [])

/-- Reads a numeral at the front of a text. -/
def read? (s : List Char) : Option (Numeral × List Char) := do
  let (negative, s) := readSign s
  let (whole, s) ← readWhole? s
  let (fraction, s) ← readFraction? s
  let (exponent, s) ← readExponent? s
  some (⟨negative, whole, fraction, exponent⟩, s)

/-- A numeral ends before a character that could continue it. -/
def Ends (rest : List Char) : Prop :=
  ∀ c ∈ rest.head?, Digit.ofChar? c = none ∧ c ≠ '.' ∧ c ≠ 'e' ∧ c ≠ 'E'

theorem char_ne {c : Char} (h : Digit.ofChar? c = none) (d : Digit) : d.char ≠ c := fun e => by
  simp [← e] at h

theorem readSign_write (n : Numeral) (hn : n.Proper) (tail : List Char) :
    readSign ((if n.negative then ['-'] else []) ++ digitChars n.whole ++ tail) =
      (n.negative, digitChars n.whole ++ tail) := by
  obtain ⟨negative, whole, fraction, exponent⟩ := n
  cases negative with
  | true => rfl
  | false =>
    have hd : ∀ d ds, whole = d :: ds → readSign (digitChars whole ++ tail) =
        (false, digitChars whole ++ tail) := by
      rintro d ds rfl
      have : d.char ≠ '-' := char_ne (by decide) d
      simp [digitChars, readSign, this]
    rcases hn with h | ⟨d, ds, h, _⟩
    · exact hd .zero [] h
    · exact hd d ds h

theorem readWhole?_write {ds : List Digit} (h : ds = [.zero] ∨ ∃ d r, ds = d :: r ∧ d ≠ .zero)
    {rest : List Char} (hr : ∀ c ∈ rest.head?, Digit.ofChar? c = none) :
    readWhole? (digitChars ds ++ rest) = some (ds, rest) := by
  rcases h with rfl | ⟨d, r, rfl, hd⟩
  · rfl
  · have hz : d.char ≠ '0' := by revert d; decide
    have ht := takeDigits_digitChars (d :: r) hr
    simp only [digitChars, List.map_cons, List.cons_append] at ht ⊢
    rw [readWhole?.eq_2 _ (fun _ he => hz (List.cons.inj he).1), ht]

theorem readFraction?_write (ds : List Digit) {rest : List Char}
    (hr : ∀ c ∈ rest.head?, Digit.ofChar? c = none ∧ c ≠ '.') :
    readFraction? ((if ds.isEmpty then [] else '.' :: digitChars ds) ++ rest) =
      some (ds, rest) := by
  cases ds with
  | nil =>
    simp only [List.isEmpty_nil, if_true, List.nil_append]
    rw [readFraction?.eq_2]
    rintro s rfl
    exact (hr '.' (by simp)).2 rfl
  | cons d r =>
    simp only [List.isEmpty_cons, Bool.false_eq_true, if_false, List.cons_append, readFraction?]
    rw [takeDigits_digitChars (d :: r) fun c hc => (hr c hc).1]

theorem readPower?_write (negative : Bool) (n : Nat) {rest : List Char}
    (hr : ∀ c ∈ rest.head?, Digit.ofChar? c = none) :
    readPower? negative (digitChars (digits n) ++ rest) =
      some (some (if negative then -(n : Int) else n), rest) := by
  have hne := digits_ne_nil n
  have hs := spelled_digits n
  simp only [readPower?, takeDigits_digitChars _ hr]
  cases h : digits n with
  | nil => exact absurd h hne
  | cons d r => rw [h] at hs; simp only [hs]

theorem readExponent?_write (e : Option Int) {rest : List Char} (hr : Ends rest) :
    readExponent? ((match e with
      | none => []
      | some e => writeExponent e) ++ rest) = some (e, rest) := by
  cases e with
  | none =>
    cases rest with
    | nil => rfl
    | cons c rest =>
      obtain ⟨_, _, h, h'⟩ := hr c (by simp)
      simp [readExponent?, h, h']
  | some e =>
    have hd : ∀ c ∈ rest.head?, Digit.ofChar? c = none := fun c hc => (hr c hc).1
    simp only [writeExponent, List.cons_append, readExponent?, true_or, if_true]
    by_cases he : e < 0
    · simp only [he, if_true, readPower?_write true _ hd]
      congr 3; omega
    · simp only [he, if_false, readPower?_write false _ hd]
      congr 3; simp; omega

/-- A written numeral reads back, whatever follows that could not continue it. -/
theorem read?_write {n : Numeral} (hn : n.Proper) {rest : List Char} (hr : Ends rest) :
    read? (n.write ++ rest) = some (n, rest) := by
  have hexp : ∀ c ∈ ((match n.exponent with
      | none => []
      | some e => writeExponent e) ++ rest).head?, Digit.ofChar? c = none ∧ c ≠ '.' := by
    intro c hc
    cases h : n.exponent with
    | none => rw [h] at hc; exact ⟨(hr c hc).1, (hr c hc).2.1⟩
    | some e =>
      rw [h] at hc
      simp only [writeExponent, List.cons_append, List.head?_cons, Option.mem_def,
        Option.some.injEq] at hc
      subst hc; decide
  have hfrac : ∀ c ∈ ((if n.fraction.isEmpty then [] else '.' :: digitChars n.fraction) ++
      ((match n.exponent with
        | none => []
        | some e => writeExponent e) ++ rest)).head?, Digit.ofChar? c = none := by
    intro c hc
    cases h : n.fraction with
    | nil => rw [h] at hc; exact (hexp c hc).1
    | cons d ds =>
      rw [h] at hc
      simp only [List.isEmpty_cons, Bool.false_eq_true, if_false, List.cons_append,
        List.head?_cons, Option.mem_def, Option.some.injEq] at hc
      subst hc; decide
  simp only [read?, write, List.append_assoc]
  rw [← List.append_assoc, readSign_write n hn]
  simp only [readWhole?_write hn hfrac, readFraction?_write n.fraction hexp,
    readExponent?_write n.exponent hr, Option.bind_eq_bind, Option.bind_some]

theorem takeDigits_shorter {s rest : List Char} {d : Digit} {ds : List Digit}
    (h : takeDigits s = (d :: ds, rest)) : rest.length < s.length := by
  have := takeDigits_length s
  rw [h] at this
  simp only [List.length_cons] at this
  omega

theorem readSign_length (s : List Char) : (readSign s).2.length ≤ s.length := by
  unfold readSign
  split <;> simp

theorem readWhole?_length {s rest : List Char} {ds : List Digit}
    (h : readWhole? s = some (ds, rest)) : rest.length < s.length := by
  unfold readWhole? at h
  split at h
  · cases h; simp
  · split at h
    · cases h
    · next ht => cases h; exact takeDigits_shorter ht

theorem readFraction?_length {s rest : List Char} {ds : List Digit}
    (h : readFraction? s = some (ds, rest)) : rest.length ≤ s.length := by
  unfold readFraction? at h
  split at h
  · split at h
    · cases h
    · next ht => cases h; have := takeDigits_shorter ht; simp only [List.length_cons]; omega
  · cases h; exact Nat.le_refl _

theorem readPower?_length {negative : Bool} {s rest : List Char} {e : Option Int}
    (h : readPower? negative s = some (e, rest)) : rest.length ≤ s.length := by
  unfold readPower? at h
  split at h
  · cases h
  · next ht => cases h; exact Nat.le_of_lt (takeDigits_shorter ht)

theorem readExponent?_length {s rest : List Char} {e : Option Int}
    (h : readExponent? s = some (e, rest)) : rest.length ≤ s.length := by
  unfold readExponent? at h
  split at h
  · split at h
    · split at h <;> have := readPower?_length h <;> simp only [List.length_cons] at * <;> omega
    · cases h; exact Nat.le_refl _
  · cases h; exact Nat.le_refl _

/-- What follows a numeral is shorter than the text. -/
theorem read?_length {s rest : List Char} {n : Numeral} (h : read? s = some (n, rest)) :
    rest.length < s.length := by
  simp only [read?, Option.bind_eq_bind, Option.bind_eq_some_iff] at h
  obtain ⟨⟨w, s₁⟩, hw, ⟨f, s₂⟩, hf, ⟨e, s₃⟩, he, h⟩ := h
  cases h
  have h₀ := readSign_length s
  have h₁ := readWhole?_length hw
  have h₂ := readFraction?_length hf
  have h₃ := readExponent?_length he
  dsimp only at h₂ h₃ ⊢
  omega

end Numeral

end RunTable
