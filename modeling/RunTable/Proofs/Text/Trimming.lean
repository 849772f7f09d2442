import Mathlib.Data.List.DropRight
import RunTable.Text.Pieces

/-! # Trimming and cutting

Trimming takes away what is to be stripped at both ends and nothing else, so what
is added there does not show (`trimBoth_append_left`, `trimBoth_append_right`),
and a text is left as it is just if neither end is to be stripped
(`trimBoth_eq_self_iff`). What is added behind a text goes to the last of its
pieces. -/

namespace RunTable.Text

variable {strip : Char → Bool} {s t : List Char}

theorem trimBoth_eq_rdropWhile (strip : Char → Bool) (s : List Char) :
    trimBoth strip s = (s.dropWhile strip).rdropWhile strip := rfl

theorem trimBoth_append_left (h : ∀ c ∈ t, strip c = true) :
    trimBoth strip (t ++ s) = trimBoth strip s := by
  rw [trimBoth, List.dropWhile_append_of_pos h, ← trimBoth]

theorem trimBoth_append_right (h : ∀ c ∈ t, strip c = true) :
    trimBoth strip (s ++ t) = trimBoth strip s := by
  rw [trimBoth, trimBoth, List.dropWhile_append]
  split
  · next hs =>
    rw [List.isEmpty_iff.mp hs, List.dropWhile_eq_nil_iff.mpr h]
  · rw [List.reverse_append, List.dropWhile_append_of_pos]
    intro c hc
    exact h c (List.mem_reverse.mp hc)

theorem trimBoth_eq_nil_iff : trimBoth strip s = [] ↔ ∀ c ∈ s, strip c = true := by
  constructor
  · intro h
    have hall := List.rdropWhile_eq_nil_iff.mp h
    rw [← List.takeWhile_append_dropWhile (p := strip) (l := s), List.forall_mem_append]
    exact ⟨fun c hc => List.mem_takeWhile_imp hc, hall⟩
  · intro h
    rw [trimBoth, List.dropWhile_eq_nil_iff.mpr h]
    rfl

/-- A text that has nothing to be stripped at either end. -/
def Trimmed (strip : Char → Bool) (s : List Char) : Prop :=
  (∀ c ∈ s.head?, strip c = false) ∧ ∀ c ∈ s.getLast?, strip c = false

theorem strip_of_head?_dropWhile {c : Char} (h : (s.dropWhile strip).head? = some c) :
    strip c = false := by
  have hhead := List.head?_dropWhile_not strip s
  rw [h] at hhead
  exact hhead

theorem dropWhile_of_head? (h : ∀ c ∈ s.head?, strip c = false) : s.dropWhile strip = s := by
  cases s with
  | nil => rfl
  | cons c s => rw [List.dropWhile_cons, h c rfl, if_neg Bool.false_ne_true]

theorem trimmed_trimBoth (strip : Char → Bool) (s : List Char) :
    Trimmed strip (trimBoth strip s) := by
  constructor
  · intro c hc
    obtain ⟨rest, hrest⟩ := List.rdropWhile_prefix (p := strip) (l := s.dropWhile strip)
    refine strip_of_head?_dropWhile (s := s) ?_
    rw [← hrest, List.head?_append, ← trimBoth_eq_rdropWhile, hc, Option.some_or]
  · intro c hc
    rw [trimBoth, List.getLast?_reverse] at hc
    exact strip_of_head?_dropWhile hc

theorem trimBoth_eq_self_iff : trimBoth strip s = s ↔ Trimmed strip s := by
  constructor
  · intro h
    rw [← h]
    exact trimmed_trimBoth strip s
  · rintro ⟨hhead, hlast⟩
    have hback : s.reverse.dropWhile strip = s.reverse := by
      refine dropWhile_of_head? fun c hc => hlast c ?_
      rwa [List.head?_reverse] at hc
    rw [trimBoth, dropWhile_of_head? hhead, hback, List.reverse_reverse]

/-! ## Pieces -/

variable {separator : Char}

theorem pieces_of_not_mem (h : separator ∉ s) : pieces separator s = [s] := by
  induction s with
  | nil => rfl
  | cons c s ih =>
    rw [List.mem_cons, not_or] at h
    rw [pieces, if_neg (Ne.symm h.1), ih h.2]

theorem exists_pieces_append (h : separator ∉ t) (s : List Char) :
    ∃ others last, pieces separator s = others ++ [last] ∧
      pieces separator (s ++ t) = others ++ [last ++ t] := by
  induction s with
  | nil => exact ⟨[], [], rfl, pieces_of_not_mem h⟩
  | cons c s ih =>
    obtain ⟨others, last, hs, hst⟩ := ih
    rw [List.cons_append, pieces, pieces, hs, hst]
    split
    · exact ⟨[] :: others, last, rfl, rfl⟩
    · cases others with
      | nil => exact ⟨[], c :: last, rfl, rfl⟩
      | cons piece others => exact ⟨(c :: piece) :: others, last, rfl, rfl⟩

/-- What the pieces hold is the text less the separators. -/
theorem exists_mem_pieces {p : Char → Prop} :
    (∃ piece ∈ pieces separator s, ∃ c ∈ piece, p c) ↔ ∃ c ∈ s, c ≠ separator ∧ p c := by
  induction s with
  | nil => simp [pieces]
  | cons c s ih =>
    rw [pieces]
    split
    · next hc =>
      rw [List.exists_mem_cons_iff, List.exists_mem_cons_iff, ih]
      simp [hc]
    · next hc =>
      obtain ⟨piece, others, hpieces⟩ := List.exists_cons_of_ne_nil (pieces_ne_nil separator s)
      rw [hpieces] at ih ⊢
      rw [List.exists_mem_cons_iff] at ih
      rw [List.exists_mem_cons_iff, List.exists_mem_cons_iff, List.exists_mem_cons_iff, ← ih,
        or_assoc]
      simp [hc]

end RunTable.Text
