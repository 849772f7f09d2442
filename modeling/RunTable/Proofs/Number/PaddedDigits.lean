import RunTable.Export.Timestamp
import RunTable.Proofs.Number.Shortest

/-! # Numbers filled up with zeros

A number below a power of ten, filled up with zeros, has one digit for each power
below it (`length_paddedDigits`). Of texts that begin with as many digits the one
whose digits spell less comes first, whatever follows (`digitChars_append_lt`). So
records of numbers of fixed widths are in the order of their numbers as texts
(`writeFixed_lt`). -/

namespace RunTable

/-! ## Digits -/

theorem spelled_cons (d : Digit) (ds : List Digit) :
    spelled (d :: ds) = d.val * 10 ^ ds.length + spelled ds := by
  rw [spelled, List.foldl_cons, foldl_spelled, Nat.mul_zero, Nat.zero_add]

theorem spelled_lt (ds : List Digit) : spelled ds < 10 ^ ds.length := by
  induction ds with
  | nil => decide
  | cons d ds ih =>
    have hd := Nat.mul_le_mul_right (10 ^ ds.length) (Nat.succ_le_of_lt d.isLt)
    rw [Nat.succ_mul] at hd
    rw [spelled_cons, List.length_cons, Nat.pow_succ]
    omega

theorem lt_pow_length_digits (n : Nat) : n < 10 ^ (digits n).length := by
  have h := spelled_lt (digits n)
  rwa [spelled_digits] at h

theorem length_digits_le {n width : Nat} (hwidth : 0 < width) (h : n < 10 ^ width) :
    (digits n).length ≤ width := by
  induction width generalizing n with
  | zero => exact absurd hwidth (Nat.lt_irrefl 0)
  | succ width ih =>
    rw [digits]
    split
    · exact Nat.succ_le_succ (Nat.zero_le width)
    · next hn =>
      have hpos : 0 < width := by
        refine Nat.pos_of_ne_zero fun hzero => hn ?_
        rwa [hzero] at h
      have hrest := ih hpos (n := n / 10) (by rw [Nat.pow_succ] at h; omega)
      rw [List.length_append, List.length_singleton]
      omega

/-- The digits of a number after so many zeros that there are as many digits as
the width, at least. -/
def paddedDigits (width n : Nat) : List Digit :=
  List.replicate (width - (digits n).length) .zero ++ digits n

theorem paddedText_eq (width n : Nat) :
    paddedText width n = String.ofList (digitChars (paddedDigits width n)) := rfl

@[simp] theorem spelled_paddedDigits (width n : Nat) : spelled (paddedDigits width n) = n := by
  rw [paddedDigits, spelled_append_list, spelled_zeros, spelled_digits, Nat.zero_mul, Nat.zero_add]

theorem length_paddedDigits {width n : Nat} (hwidth : 0 < width) (h : n < 10 ^ width) :
    (paddedDigits width n).length = width := by
  rw [paddedDigits, List.length_append, List.length_replicate]
  exact Nat.sub_add_cancel (length_digits_le hwidth h)

/-! ## Order -/

theorem Digit.char_lt {a b : Digit} (h : a.val < b.val) : a.char < b.char := by
  revert a b
  decide

/-- Of texts that begin with as many digits the one with the smaller number comes
first. -/
theorem digitChars_append_lt {as bs : List Digit} (hlength : as.length = bs.length)
    (h : spelled as < spelled bs) (s t : List Char) :
    digitChars as ++ s < digitChars bs ++ t := by
  induction as generalizing bs with
  | nil =>
    obtain rfl := List.length_eq_zero_iff.mp hlength.symm
    exact absurd h (Nat.lt_irrefl _)
  | cons a as ih =>
    obtain _ | ⟨b, bs⟩ := bs
    · cases hlength
    have hlength : as.length = bs.length := Nat.succ.inj hlength
    rw [spelled_cons, spelled_cons, hlength] at h
    refine List.cons_lt_cons_iff.mpr ?_
    rcases Nat.lt_trichotomy a.val b.val with hlt | heq | hgt
    · exact Or.inl (Digit.char_lt hlt)
    · rw [heq] at h
      exact Or.inr ⟨congrArg Digit.char (Fin.ext heq), ih hlength (Nat.lt_of_add_lt_add_left h)⟩
    · -- A larger first digit outweighs all that follow.
      have hstep := Nat.mul_le_mul_right (10 ^ bs.length) (Nat.succ_le_of_lt hgt)
      have hrest := spelled_lt bs
      rw [Nat.succ_mul] at hstep
      omega

/-! ## Records -/

/-- Numbers of fixed widths, each with a text after it. -/
def writeFixed : List (Nat × List Char) → List Nat → List Char
  | (width, after) :: layout, n :: ns =>
    digitChars (paddedDigits width n) ++ (after ++ writeFixed layout ns)
  | _, _ => []

/-- Each number has a width, and fits. -/
def Fits (layout : List (Nat × List Char)) (ns : List Nat) : Prop :=
  List.Forall₂ (fun field n => 0 < field.1 ∧ n < 10 ^ field.1) layout ns

theorem writeFixed_lt {layout : List (Nat × List Char)} {ms ns : List Nat}
    (hm : Fits layout ms) (hn : Fits layout ns) (h : ms < ns) :
    writeFixed layout ms < writeFixed layout ns := by
  induction hm generalizing ns with
  | nil =>
    cases hn
    exact absurd h (List.lt_irrefl [])
  | @cons field m layout ms hm _ ih =>
    obtain _ | ⟨hn, hns⟩ := hn
    obtain ⟨width, after⟩ := field
    simp only [writeFixed]
    rcases List.cons_lt_cons_iff.mp h with hlt | ⟨rfl, hrest⟩
    · refine digitChars_append_lt ?_ (by simpa using hlt) _ _
      rw [length_paddedDigits hm.1 hm.2, length_paddedDigits hn.1 hn.2]
    · exact List.append_left_lt (List.append_left_lt (ih hns hrest))

end RunTable
