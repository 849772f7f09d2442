/-!
Decimal digits: the digits of a natural number, the number they spell (`spelled_digits`), and the
characters that stand for them (`Digit.ofChar?_char`).
-/

namespace RunTable

abbrev Digit := Fin 10

namespace Digit

def zero : Digit := ⟨0, by decide⟩

def char (d : Digit) : Char := Char.ofNat (48 + d.val)

def ofChar? (c : Char) : Option Digit :=
  if h : 48 ≤ c.toNat ∧ c.toNat < 58 then some ⟨c.toNat - 48, by omega⟩ else none

@[simp] theorem ofChar?_char (d : Digit) : ofChar? d.char = some d := by
  revert d; decide

end Digit

/-- The digits of a number, without leading zeros. -/
def digits (n : Nat) : List Digit :=
  if n < 10 then [Fin.ofNat 10 n] else digits (n / 10) ++ [Fin.ofNat 10 n]

def spelled (ds : List Digit) : Nat := ds.foldl (fun n d => 10 * n + d.val) 0

theorem spelled_append (ds : List Digit) (d : Digit) :
    spelled (ds ++ [d]) = 10 * spelled ds + d.val := by
  simp [spelled]

@[simp] theorem spelled_digits (n : Nat) : spelled (digits n) = n := by
  induction n using Nat.strongRecOn with
  | ind n ih =>
    rw [digits]
    split
    · next h => simp [spelled, Fin.ofNat]; omega
    · next h =>
      rw [spelled_append, ih (n / 10) (by omega)]
      simp [Fin.ofNat]; omega

theorem digits_ne_nil (n : Nat) : digits n ≠ [] := by
  rw [digits]; split <;> simp

def takeDigits : List Char → List Digit × List Char
  | [] => ([], [])
  | c :: rest =>
    match Digit.ofChar? c with
    | some d => (d :: (takeDigits rest).1, (takeDigits rest).2)
    | none => ([], c :: rest)

def digitChars (ds : List Digit) : List Char := ds.map Digit.char

/-- Digits are taken as far as they go. -/
theorem takeDigits_digitChars (ds : List Digit) {rest : List Char}
    (h : ∀ c ∈ rest.head?, Digit.ofChar? c = none) :
    takeDigits (digitChars ds ++ rest) = (ds, rest) := by
  induction ds with
  | nil =>
    cases rest with
    | nil => rfl
    | cons c rest => simp [digitChars, takeDigits, h c (by simp)]
  | cons d ds ih =>
    simp only [digitChars, List.map_cons, List.cons_append] at ih ⊢
    simp [takeDigits, ih]

theorem takeDigits_length (s : List Char) :
    (takeDigits s).1.length + (takeDigits s).2.length = s.length := by
  induction s with
  | nil => rfl
  | cons c rest ih =>
    simp only [takeDigits]
    split
    · simp only [List.length_cons]; omega
    · simp

end RunTable
