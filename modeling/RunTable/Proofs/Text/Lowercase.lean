import Mathlib.Data.List.TakeWhile
import RunTable.Text.Lowercase

/-! # Lower-casing a part of a text

Only a capital sigma looks at its neighbours when it is put into lower case. So a
part of a text goes to the lower-case form that it has on its own, except that its
sigmas may end a word in one place and not in the other (`KeepsSigmas`). They do
neither if the part has no sigma, if no letter stands next to it, or if its sigmas
stand among letters of its own; and whatever stands around it, the two forms
differ in nothing but which of the small sigmas is where
(`exists_lower_append`). -/

namespace RunTable.Text

/-! ## A part in its place -/

theorem lowerChar_ne_nil (c : Char) : lowerChar c ≠ [] := by
  unfold lowerChar
  split
  · exact List.cons_ne_nil _ _
  · split
    · exact List.cons_ne_nil _ _
    · split <;> exact List.cons_ne_nil _ _

theorem lower_eq_nil_iff {s : List Char} : lower s = [] ↔ s = [] := by
  cases s with
  | nil => simp [lower, lowerAfter]
  | cons c s =>
    simp only [reduceCtorEq, iff_false]
    intro h
    have hfirst := (List.append_eq_nil_iff.mp h).1
    split at hfirst
    · exact List.cons_ne_nil _ _ hfirst
    · exact lowerChar_ne_nil c hfirst

/-- The lower-case form of a text between two others, the nearest character before
it first. -/
def lowerBetween (before after : List Char) : List Char → List Char
  | [] => []
  | c :: rest =>
    (if c = 'Σ' then [if endsWord before (rest ++ after) then 'ς' else 'σ'] else lowerChar c) ++
      lowerBetween (c :: before) after rest

variable {before after s : List Char}

theorem lowerAfter_append (before after s : List Char) :
    lowerAfter before (s ++ after) =
      lowerBetween before after s ++ lowerAfter (s.reverse ++ before) after := by
  induction s generalizing before with
  | nil => rfl
  | cons c s ih =>
    rw [List.cons_append, lowerAfter, lowerBetween, ih, List.reverse_cons, List.append_assoc,
      List.append_assoc, List.singleton_append]

theorem lower_append (before s after : List Char) :
    lower (before ++ s ++ after) =
      lowerBetween [] (s ++ after) before ++ lowerBetween before.reverse after s ++
        lowerAfter (s.reverse ++ before.reverse) after := by
  rw [lower, List.append_assoc, lowerAfter_append, lowerAfter_append, List.append_nil,
    List.append_assoc]

/-! ## Sigmas -/

/-- Each capital sigma of a text ends a word in it just if it does so where the
text stands between two others. -/
def KeepsSigmas (before s after : List Char) : Prop :=
  ∀ x y, s = x ++ 'Σ' :: y →
    endsWord (x.reverse ++ before.reverse) (y ++ after) = endsWord x.reverse y

theorem sigma_inj {a b : Bool} :
    (if a = true then 'ς' else 'σ') = (if b = true then 'ς' else 'σ') ↔ a = b := by
  cases a <;> cases b <;> decide

theorem forall_sigma_cons {p : List Char → List Char → Prop} {c : Char} :
    (∀ x y, c :: s = x ++ 'Σ' :: y → p x y) ↔
      (c = 'Σ' → p [] s) ∧ ∀ x y, s = x ++ 'Σ' :: y → p (c :: x) y := by
  constructor
  · intro h
    exact ⟨fun hc => h [] s (by rw [hc]; rfl), fun x y hs => h (c :: x) y (by rw [hs]; rfl)⟩
  · rintro ⟨hhead, hrest⟩ x y hs
    cases x with
    | nil =>
      obtain ⟨hc, rfl⟩ := List.cons.inj hs
      exact hhead hc
    | cons d x =>
      obtain ⟨rfl, htail⟩ := List.cons.inj hs
      exact hrest x y htail

/-- The lower-case form in a place is that of the text itself just if each sigma ends
a word in both or in neither. -/
theorem lowerBetween_eq_lowerAfter_iff (own : List Char) :
    lowerBetween (own ++ before) after s = lowerAfter own s ↔ ∀ x y, s = x ++ 'Σ' :: y →
      endsWord (x.reverse ++ (own ++ before)) (y ++ after) = endsWord (x.reverse ++ own) y := by
  induction s generalizing own with
  | nil => simp [lowerBetween, lowerAfter]
  | cons c s ih =>
    have hrest : lowerBetween (c :: (own ++ before)) after s = lowerAfter (c :: own) s ↔
        ∀ x y, s = x ++ 'Σ' :: y →
          endsWord ((c :: x).reverse ++ (own ++ before)) (y ++ after) =
            endsWord ((c :: x).reverse ++ own) y := by
      simpa using ih (c :: own)
    rw [forall_sigma_cons, lowerBetween, lowerAfter, ← hrest]
    by_cases hc : c = 'Σ'
    · rw [if_pos hc, if_pos hc, List.singleton_append, List.singleton_append, List.cons.injEq]
      refine and_congr_left fun _ => ?_
      rw [sigma_inj]
      simp [hc]
    · simp [hc]

theorem lowerBetween_eq_lower_iff :
    lowerBetween before.reverse after s = lower s ↔ KeepsSigmas before s after := by
  rw [← List.nil_append before.reverse, lower, lowerBetween_eq_lowerAfter_iff, KeepsSigmas]
  simp only [List.nil_append, List.append_nil]

/-- A text whose sigmas keep their form has its own lower-case form in place. -/
theorem lower_infix (h : KeepsSigmas before s after) :
    lower s <:+: lower (before ++ s ++ after) := by
  rw [lower_append, lowerBetween_eq_lower_iff.mpr h]
  exact List.infix_append _ _ _

theorem casedAhead_append_of_exists (h : ∃ c ∈ s, caseIgnorable c = false) (t : List Char) :
    casedAhead (s ++ t) = casedAhead s := by
  have hsome : s.dropWhile caseIgnorable ≠ [] := by
    obtain ⟨c, hc, hcase⟩ := h
    intro hnil
    rw [List.dropWhile_eq_nil_iff.mp hnil c hc] at hcase
    cases hcase
  obtain ⟨c, rest, hrest⟩ := List.exists_cons_of_ne_nil hsome
  rw [casedAhead, casedAhead, List.dropWhile_append, hrest]
  rfl

theorem casedAhead_append_of_not {t : List Char} (h : casedAhead t = false) (s : List Char) :
    casedAhead (s ++ t) = casedAhead s := by
  by_cases hs : ∃ c ∈ s, caseIgnorable c = false
  · exact casedAhead_append_of_exists hs t
  · have hall : ∀ c ∈ s, caseIgnorable c = true := by
      intro c hc
      cases hcase : caseIgnorable c with
      | true => rfl
      | false => exact absurd ⟨c, hc, hcase⟩ hs
    have hnone : casedAhead s = false := by
      rw [casedAhead, List.dropWhile_eq_nil_iff.mpr hall]
    rw [hnone, ← h, casedAhead, casedAhead, List.dropWhile_append_of_pos hall]

theorem keepsSigmas_of_not_mem (h : 'Σ' ∉ s) (before after : List Char) :
    KeepsSigmas before s after := by
  intro x y hs
  rw [hs] at h
  exact absurd (List.mem_append_right x List.mem_cons_self) h

/-- Where the next letters outside belong to no word, the text has its words to
itself. -/
theorem keepsSigmas_of_apart (hbefore : casedAhead before.reverse = false)
    (hafter : casedAhead after = false) (s : List Char) : KeepsSigmas before s after := by
  intro x y _
  rw [endsWord, casedAhead_append_of_not hbefore, casedAhead_append_of_not hafter, endsWord]

/-- Sigmas among characters that case rules do not pass over see nothing else. -/
theorem keepsSigmas_of_inside
    (h : ∀ x y, s = x ++ 'Σ' :: y →
      (∃ c ∈ x, caseIgnorable c = false) ∧ ∃ c ∈ y, caseIgnorable c = false)
    (before after : List Char) : KeepsSigmas before s after := by
  intro x y hs
  obtain ⟨⟨c, hc, hcase⟩, hy⟩ := h x y hs
  have hx : ∃ c ∈ x.reverse, caseIgnorable c = false := ⟨c, List.mem_reverse.mpr hc, hcase⟩
  rw [endsWord, casedAhead_append_of_exists hx, casedAhead_append_of_exists hy, endsWord]

/-- A text stands somewhere in another where its sigmas keep their form. -/
def StandsIn (s text : List Char) : Prop :=
  ∃ before after, text = before ++ s ++ after ∧ KeepsSigmas before s after

theorem StandsIn.lower_infix {text : List Char} (h : StandsIn s text) :
    lower s <:+: lower text := by
  obtain ⟨before, after, rfl, hsigmas⟩ := h
  exact Text.lower_infix hsigmas

/-! ## The two small sigmas as one -/

/-- The small sigma in either of its forms as the plain one. -/
def foldSigma (c : Char) : Char := if c = 'ς' then 'σ' else c

/-- Wherever a text stands, it has one lower-case form but for the small sigmas. -/
theorem map_foldSigma_lowerBetween (before after own s : List Char) :
    (lowerBetween before after s).map foldSigma = (lowerAfter own s).map foldSigma := by
  induction s generalizing before own with
  | nil => rfl
  | cons c s ih =>
    rw [lowerBetween, lowerAfter, List.map_append, List.map_append, ih (c :: before) (c :: own)]
    congr 1
    split
    · split <;> split <;> rfl
    · rfl

theorem map_foldSigma_lowerAfter (own s : List Char) :
    (lowerAfter own s).map foldSigma = (lower s).map foldSigma := by
  rw [← map_foldSigma_lowerBetween [] [] own, map_foldSigma_lowerBetween [] [] [], lower]

/-- The lower-case form of a text is made of those of its parts, the small sigmas
aside, and that of a part is the same throughout just if its sigmas keep theirs. -/
theorem exists_lower_append (before s after : List Char) :
    ∃ front part back, lower (before ++ s ++ after) = front ++ part ++ back ∧
      front.map foldSigma = (lower before).map foldSigma ∧
      part.map foldSigma = (lower s).map foldSigma ∧
      back.map foldSigma = (lower after).map foldSigma ∧
      (part = lower s ↔ KeepsSigmas before s after) :=
  ⟨_, _, _, lower_append before s after, map_foldSigma_lowerBetween _ _ [] before,
    map_foldSigma_lowerBetween _ _ [] s, map_foldSigma_lowerAfter _ after,
    lowerBetween_eq_lower_iff⟩

end RunTable.Text
