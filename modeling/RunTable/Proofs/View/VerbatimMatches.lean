import RunTable.Proofs.View.JoinedFilters
import RunTable.Proofs.View.ShownRuns

/-! # What stands somewhere verbatim

The term of a filter and the text that is searched for are put into lower case on
their own, and so is what they are looked for in. A text that stands in a key
verbatim is found there wherever its capital sigmas keep their form
(`Text.StandsIn`), and may be missed elsewhere: at the end of a word the sigma
becomes a final one, which is not found in the middle of a word. -/

namespace RunTable

open Text

theorem KeyFilter.mem_terms_of_mem_pieces {raw : String} {piece : List Char}
    (hpiece : piece ∈ pieces ',' raw.toList) (hne : trim piece ≠ []) :
    lower (trim piece) ∈ (⟨raw⟩ : KeyFilter).terms := by
  refine List.mem_filter.mpr ⟨List.mem_map.mpr ⟨piece, hpiece, rfl⟩, ?_⟩
  rw [Bool.not_eq_true', List.isEmpty_eq_false_iff]
  exact fun hnil => hne (lower_eq_nil_iff.mp hnil)

/-- A term passes the keys in which it stands. -/
theorem KeyFilter.passes_of_standsIn {term key : String} (htrim : Trimmed blank term.toList)
    (hcomma : ',' ∉ term.toList) (h : StandsIn term.toList key.toList) :
    (⟨term⟩ : KeyFilter).passes key = true := by
  have hself : trim term.toList = term.toList := trimBoth_eq_self_iff.mpr htrim
  have hpieces : pieces ',' term.toList = [term.toList] := pieces_of_not_mem hcomma
  by_cases hnil : term.toList = []
  · rw [String.toList_eq_nil_iff.mp hnil]
    rfl
  · have hpiece : term.toList ∈ pieces ',' term.toList := by
      rw [hpieces]
      exact List.mem_singleton_self _
    have hterm : lower (trim term.toList) ∈ (⟨term⟩ : KeyFilter).terms := by
      refine mem_terms_of_mem_pieces hpiece ?_
      rwa [hself]
    rw [hself] at hterm
    exact passes_iff.mpr (Or.inr ⟨_, hterm, h.lower_infix⟩)

/-- A run is selected if what is searched for stands in its identifier or its name. -/
theorem ViewState.selects_of_standsIn {s : ViewState} {r : Run} (hstage : r.stage = s.stage)
    (h : StandsIn (trim s.search.toList) r.id.toList ∨
      ∃ name, r.name = some name ∧ StandsIn (trim s.search.toList) name.toList) :
    s.Selects r := by
  refine ⟨hstage, Or.inr ?_⟩
  rcases h with hid | ⟨name, hname, hstands⟩
  · exact Or.inl hid.lower_infix
  · exact Or.inr ⟨name, hname, hstands.lower_infix⟩

theorem ViewState.count_visibleRuns {s : ViewState} {r : Run} (h : s.Selects r)
    (runs : List Run) : (s.visibleRuns runs).count r = runs.count r := by
  rw [(s.perm_visibleRuns runs).count_eq, List.count_filter (selects_iff.mpr h)]

/-- **What stands somewhere verbatim and keeps its sigmas is found.** A filter of
one term passes each key in which the term stands, and no run at the stage that is
shown is lost if what is searched for stands in its identifier or its name. A text
without a capital sigma stands wherever it is verbatim; any text does where no
letter is next to it; and a text whose sigmas are among letters of its own does
wherever it is verbatim. In the lower-case form of a text, that of a part of it is
in its place just if the sigmas of the part keep their form, and differs in nothing
but small sigmas otherwise. -/
theorem verbatim_found (sought : String) :
    (∀ key : String, Trimmed blank sought.toList → ',' ∉ sought.toList →
      StandsIn sought.toList key.toList → (⟨sought⟩ : KeyFilter).passes key = true) ∧
    (∀ (s : ViewState) (runs : List Run) (r : Run), trim s.search.toList = sought.toList →
      r.stage = s.stage →
      (StandsIn sought.toList r.id.toList ∨
        ∃ name, r.name = some name ∧ StandsIn sought.toList name.toList) →
      (s.visibleRuns runs).count r = runs.count r) ∧
    (∀ text, sought.toList <:+: text → 'Σ' ∉ sought.toList → StandsIn sought.toList text) ∧
    (∀ before after : List Char, casedAhead before.reverse = false →
      casedAhead after = false → StandsIn sought.toList (before ++ sought.toList ++ after)) ∧
    (∀ text, sought.toList <:+: text →
      (∀ x y, sought.toList = x ++ 'Σ' :: y →
        (∃ c ∈ x, caseIgnorable c = false) ∧ ∃ c ∈ y, caseIgnorable c = false) →
      StandsIn sought.toList text) ∧
    ∀ before after, ∃ front part back,
      lower (before ++ sought.toList ++ after) = front ++ part ++ back ∧
      front.map foldSigma = (lower before).map foldSigma ∧
      part.map foldSigma = (lower sought.toList).map foldSigma ∧
      back.map foldSigma = (lower after).map foldSigma ∧
      (part = lower sought.toList ↔ KeepsSigmas before sought.toList after) := by
  refine ⟨fun key htrim hcomma h => KeyFilter.passes_of_standsIn htrim hcomma h,
    fun s runs r hsought hstage h => ?_, ?_, ?_, ?_,
    fun before after => exists_lower_append before sought.toList after⟩
  · rw [← hsought] at h
    exact ViewState.count_visibleRuns (ViewState.selects_of_standsIn hstage h) runs
  · rintro text ⟨before, after, rfl⟩ hsigma
    exact ⟨before, after, rfl, keepsSigmas_of_not_mem hsigma before after⟩
  · intro before after hbefore hafter
    exact ⟨before, after, rfl, keepsSigmas_of_apart hbefore hafter sought.toList⟩
  · rintro text ⟨before, after, rfl⟩ hinside
    exact ⟨before, after, rfl, keepsSigmas_of_inside hinside before after⟩

/-- A word that ends in a sigma, between hyphens, a part of a text without its
sigmas, and a part with one inside. -/
theorem verbatim_found_words :
    let run (id : String) : Run :=
      ⟨id, some "μ-ΛΟΓΟΣ-1", 0, none, "", "", "", .running, .active, .empty, .empty, .empty⟩
    let s := { ViewState.initial with search := " ΛΟΓΟΣ " }
    Trimmed blank "ΛΟΓΟΣ".toList ∧ ',' ∉ "ΛΟΓΟΣ".toList ∧
      StandsIn "ΛΟΓΟΣ".toList "μ-ΛΟΓΟΣ-1".toList ∧
      (⟨"ΛΟΓΟΣ"⟩ : KeyFilter).passes "μ-ΛΟΓΟΣ-1" = true ∧
      StandsIn "Λ".toList "ΛΟΓΟΣ".toList ∧ (⟨"Λ"⟩ : KeyFilter).passes "ΛΟΓΟΣ" = true ∧
      StandsIn "ΟΣΟ".toList "ΤΟΣΟΣ".toList ∧
      trim s.search.toList = "ΛΟΓΟΣ".toList ∧ (run "b").stage = s.stage ∧
      (s.visibleRuns [run "a", run "b"]).count (run "b") = [run "a", run "b"].count (run "b") := by
  intro run s
  obtain ⟨hterm, hsearch, _, hapart, _, _⟩ := verbatim_found "ΛΟΓΟΣ"
  obtain ⟨hletterTerm, _, hplain, _, _, _⟩ := verbatim_found "Λ"
  obtain ⟨_, _, _, _, hinside, _⟩ := verbatim_found "ΟΣΟ"
  have htrim : Trimmed blank "ΛΟΓΟΣ".toList := trimBoth_eq_self_iff.mp (by decide)
  have hcomma : ',' ∉ "ΛΟΓΟΣ".toList := by decide
  have hword : StandsIn "ΛΟΓΟΣ".toList "μ-ΛΟΓΟΣ-1".toList := by
    have hkey : "μ-ΛΟΓΟΣ-1".toList = "μ-".toList ++ "ΛΟΓΟΣ".toList ++ "-1".toList := by
      decide
    rw [hkey]
    exact hapart _ _ (by decide +kernel) (by decide +kernel)
  have hletter : StandsIn "Λ".toList "ΛΟΓΟΣ".toList :=
    hplain _ (occurs_iff.mp (by decide)) (by decide)
  have hpart : StandsIn "ΟΣΟ".toList "ΤΟΣΟΣ".toList := by
    refine hinside _ (occurs_iff.mp (by decide)) fun x y h => ?_
    have hsides : ∃ rest, x = 'Ο' :: rest ∧ rest = [] ∧ y = ['Ο'] := by
      simpa [List.cons_eq_append_iff] using h
    obtain ⟨_, rfl, rfl, rfl⟩ := hsides
    have hletter : caseIgnorable 'Ο' = false := by decide +kernel
    exact ⟨⟨'Ο', List.mem_singleton_self _, hletter⟩, ⟨'Ο', List.mem_singleton_self _, hletter⟩⟩
  have hsought : trim s.search.toList = "ΛΟΓΟΣ".toList := by decide
  have hstage : (run "b").stage = s.stage := rfl
  have hshown := hsearch s [run "a", run "b"] (run "b") hsought hstage
    (Or.inr ⟨"μ-ΛΟΓΟΣ-1", rfl, hword⟩)
  exact ⟨htrim, hcomma, hword, hterm _ htrim hcomma hword, hletter,
    hletterTerm _ (trimBoth_eq_self_iff.mp (by decide)) (by decide) hletter,
    hpart, hsought, hstage, hshown⟩

/-- A text that ends in a sigma is verbatim in a longer word, and is not found
there, neither by a filter nor by a search. -/
theorem verbatim_missed_at_final_sigma :
    let r : Run :=
      ⟨"ΑΣΑ", none, 0, none, "", "", "", .running, .active, .empty, .empty, .empty⟩
    let s := { ViewState.initial with search := "ΑΣ" }
    Trimmed blank "ΑΣ".toList ∧ ',' ∉ "ΑΣ".toList ∧ "ΑΣ".toList <:+: "ΑΣΑ".toList ∧
      (⟨"ΑΣ"⟩ : KeyFilter).passes "ΑΣΑ" = false ∧
      trim s.search.toList = "ΑΣ".toList ∧ r.stage = s.stage ∧ s.visibleRuns [r] = [] ∧
      (¬∀ term key : String, term ≠ "" → Trimmed blank term.toList → ',' ∉ term.toList →
        term.toList <:+: key.toList → (⟨term⟩ : KeyFilter).passes key = true) ∧
      ¬∀ (s : ViewState) (runs : List Run), ∀ r ∈ runs, r.stage = s.stage →
        trim s.search.toList <:+: r.id.toList → r ∈ s.visibleRuns runs := by
  intro r s
  have htrim : Trimmed blank "ΑΣ".toList := trimBoth_eq_self_iff.mp (by decide)
  have hcomma : ',' ∉ "ΑΣ".toList := by decide
  have hinfix : "ΑΣ".toList <:+: "ΑΣΑ".toList := occurs_iff.mp (by decide)
  have hmissed : (⟨"ΑΣ"⟩ : KeyFilter).passes "ΑΣΑ" = false := by decide +kernel
  have hsought : trim s.search.toList = "ΑΣ".toList := by decide
  have hlost : s.visibleRuns [r] = [] := by decide +kernel
  refine ⟨htrim, hcomma, hinfix, hmissed, hsought, rfl, hlost, fun hclaim => ?_, fun hclaim => ?_⟩
  · have hpasses := hclaim "ΑΣ" "ΑΣΑ" (by decide) htrim hcomma hinfix
    rw [hmissed] at hpasses
    cases hpasses
  · have hshown := hclaim s [r] r (List.mem_singleton_self r) rfl (by rw [hsought]; exact hinfix)
    rw [hlost] at hshown
    cases hshown

end RunTable
