import RunTable.Proofs.Text.Lowercase
import RunTable.Proofs.Text.Trimming
import RunTable.View.Visible

/-! # Filters joined by commas

The terms of two texts with a comma between them are those of the one and then
those of the other (`termsOf_join`), and a text that holds nothing but commas and
blanks adds no term at either end of another (`termsOf_append_padding`,
`termsOf_padding_append`). What a filter passes follows from the terms it has. A
filter without terms passes everything, so terms that are added to it may take
columns away; to a filter that has one, they only add columns. -/

namespace RunTable

open Text

/-- Where more keys pass, no column goes. -/
theorem ViewState.visibleKeys_sublist {s t : ViewState} {c : Category}
    (h : ∀ key, s.passes c key = true → t.passes c key = true)
    (hcolumns : s.columns = t.columns) (runs : List Run) :
    (s.visibleKeys runs c).Sublist (t.visibleKeys runs c) := by
  refine List.monotone_filter_right _ fun key hkey => ?_
  rw [Bool.and_eq_true] at hkey ⊢
  rw [← hcolumns]
  exact ⟨h key hkey.1, hkey.2⟩

namespace KeyFilter

/-- Whether a text has a term: some character in it is neither blank nor a comma. -/
def HasTerm (text : String) : Prop := ∃ c ∈ text.toList, c ≠ ',' ∧ blank c = false

instance (text : String) : Decidable (HasTerm text) :=
  List.decidableBEx (fun c => c ≠ ',' ∧ blank c = false) text.toList

variable {a b pad : List Char}

/-! ## Terms -/

theorem termsOf_join (a b : List Char) : termsOf (a ++ ',' :: b) = termsOf a ++ termsOf b := by
  rw [termsOf, pieces_append, List.map_append, List.filter_append, termsOf, termsOf]

theorem termsOf_eq_nil_iff : termsOf a = [] ↔ ¬∃ c ∈ a, c ≠ ',' ∧ blank c = false := by
  rw [← exists_mem_pieces (p := fun c => blank c = false), termsOf, List.filter_eq_nil_iff,
    List.forall_mem_map]
  push Not
  refine forall₂_congr fun piece _ => ?_
  have hblank : lower (trim piece) = [] ↔ ∀ c ∈ piece, blank c = true := by
    rw [lower_eq_nil_iff, trim, trimBoth_eq_nil_iff]
  simpa using hblank

theorem ne_comma_of_blank {c : Char} (hc : blank c = true) : c ≠ ',' := by
  rintro rfl
  exact absurd hc (by decide)

/-- A blank at the end goes to the last piece, which is trimmed. -/
theorem termsOf_append_blank {c : Char} (hc : blank c = true) : termsOf (a ++ [c]) = termsOf a := by
  have hcomma : ',' ∉ [c] := fun h => ne_comma_of_blank hc (List.mem_singleton.mp h).symm
  obtain ⟨others, last, ha, hac⟩ := exists_pieces_append hcomma a
  have htrim : trim (last ++ [c]) = trim last :=
    trimBoth_append_right (List.forall_mem_singleton.mpr hc)
  rw [termsOf, hac, List.map_append, List.map_singleton, htrim, termsOf, ha, List.map_append,
    List.map_singleton]

theorem termsOf_blank_cons {c : Char} (hc : blank c = true) : termsOf (c :: a) = termsOf a := by
  obtain ⟨piece, others, ha⟩ := List.exists_cons_of_ne_nil (pieces_ne_nil ',' a)
  have htrim : trim (c :: piece) = trim piece :=
    trimBoth_append_left (t := [c]) (List.forall_mem_singleton.mpr hc)
  rw [termsOf, pieces, if_neg (ne_comma_of_blank hc), termsOf, ha, List.map_cons, List.map_cons, htrim]

theorem termsOf_append_padding (h : ∀ c ∈ pad, c = ',' ∨ blank c = true) (a : List Char) :
    termsOf (a ++ pad) = termsOf a := by
  induction pad generalizing a with
  | nil => rw [List.append_nil]
  | cons c pad ih =>
    obtain ⟨hc, hpad⟩ := List.forall_mem_cons.mp h
    rcases hc with rfl | hc
    · have hnone : termsOf pad = [] := ih hpad []
      rw [termsOf_join, hnone, List.append_nil]
    · rw [List.append_cons, ih hpad, termsOf_append_blank hc]

theorem termsOf_padding_append (h : ∀ c ∈ pad, c = ',' ∨ blank c = true) (a : List Char) :
    termsOf (pad ++ a) = termsOf a := by
  induction pad with
  | nil => rfl
  | cons c pad ih =>
    obtain ⟨hc, hpad⟩ := List.forall_mem_cons.mp h
    rcases hc with rfl | hc
    · rw [List.cons_append, ← List.nil_append (',' :: (pad ++ a)), termsOf_join, ih hpad]
      rfl
    · rw [List.cons_append, termsOf_blank_cons hc, ih hpad]

/-- Padding with a comma in it parts two texts as a comma does. -/
theorem termsOf_padded_join (h : ∀ c ∈ pad, c = ',' ∨ blank c = true) (hcomma : ',' ∈ pad)
    (a b : List Char) : termsOf (a ++ pad ++ b) = termsOf a ++ termsOf b := by
  obtain ⟨front, back, rfl⟩ := List.append_of_mem hcomma
  obtain ⟨hfront, hback⟩ := List.forall_mem_append.mp h
  calc termsOf (a ++ (front ++ ',' :: back) ++ b)
    _ = termsOf ((a ++ front) ++ ',' :: (back ++ b)) := by simp
    _ = termsOf (a ++ front) ++ termsOf (back ++ b) := termsOf_join _ _
    _ = termsOf a ++ termsOf b := by
      rw [termsOf_append_padding hfront,
        termsOf_padding_append fun c hc => hback c (List.mem_cons_of_mem _ hc)]

/-! ## The terms of a filter -/

theorem forall_padding {text : String} (h : ¬HasTerm text) :
    ∀ c ∈ text.toList, c = ',' ∨ blank c = true := by
  intro c hc
  by_contra hterm
  rw [not_or, Bool.not_eq_true] at hterm
  exact h ⟨c, hc, hterm⟩

theorem isEmpty_iff {text : String} : (⟨text⟩ : KeyFilter).isEmpty = true ↔ ¬HasTerm text := by
  rw [isEmpty, List.isEmpty_iff, terms, termsOf_eq_nil_iff, HasTerm]

theorem terms_join (a b : String) :
    (⟨a ++ "," ++ b⟩ : KeyFilter).terms = (⟨a⟩ : KeyFilter).terms ++ (⟨b⟩ : KeyFilter).terms := by
  rw [terms, String.toList_append, String.toList_append, List.append_assoc]
  exact termsOf_join a.toList b.toList

theorem terms_intercalate (texts : List String) :
    (⟨",".intercalate texts⟩ : KeyFilter).terms =
      texts.flatMap fun text => (⟨text⟩ : KeyFilter).terms := by
  induction texts with
  | nil => rfl
  | cons text texts ih =>
    cases texts with
    | nil => rw [String.intercalate_singleton, List.flatMap_singleton]
    | cons next texts =>
      rw [String.intercalate_cons_cons, terms_join, ih]
      rfl

/-! ## What a filter passes -/

/-- Whether a term of the filter stands in the key, the case of letters aside. -/
def Meets (f : KeyFilter) (key : String) : Prop := ∃ t ∈ f.terms, t <:+: lower key.toList

theorem passes_iff {f : KeyFilter} {key : String} :
    f.passes key = true ↔ f.isEmpty = true ∨ f.Meets key := by
  simp only [passes, isEmpty, Meets, Bool.or_eq_true, List.any_eq_true, occurs_iff]

theorem Meets.hasTerm {text key : String} (h : (⟨text⟩ : KeyFilter).Meets key) :
    HasTerm text := by
  obtain ⟨t, ht, _⟩ := h
  by_contra hnone
  rw [← isEmpty_iff, isEmpty, List.isEmpty_iff] at hnone
  rw [hnone] at ht
  cases ht

theorem hasTerm_and_passes_iff {text key : String} :
    HasTerm text ∧ (⟨text⟩ : KeyFilter).passes key = true ↔ (⟨text⟩ : KeyFilter).Meets key := by
  rw [passes_iff, isEmpty_iff]
  constructor
  · rintro ⟨hterm, hnone | hmeets⟩
    · exact absurd hterm hnone
    · exact hmeets
  · intro h
    exact ⟨h.hasTerm, Or.inr h⟩

/-- The order and the number of the terms make no difference. -/
theorem passes_congr {f g : KeyFilter} (h : ∀ t, t ∈ f.terms ↔ t ∈ g.terms) (key : String) :
    f.passes key = g.passes key := by
  have hempty : f.isEmpty = g.isEmpty := by
    rw [isEmpty, isEmpty, Bool.eq_iff_iff, List.isEmpty_iff, List.isEmpty_iff,
      List.eq_nil_iff_forall_not_mem, List.eq_nil_iff_forall_not_mem]
    exact forall_congr' fun t => not_congr (h t)
  rw [Bool.eq_iff_iff, passes_iff, passes_iff, hempty, Meets, Meets]
  simp only [h]

theorem isEmpty_join (a b : String) :
    (⟨a ++ "," ++ b⟩ : KeyFilter).isEmpty =
      ((⟨a⟩ : KeyFilter).isEmpty && (⟨b⟩ : KeyFilter).isEmpty) := by
  rw [Bool.eq_iff_iff, Bool.and_eq_true, isEmpty, terms_join, List.isEmpty_iff,
    List.append_eq_nil_iff, isEmpty, isEmpty, List.isEmpty_iff, List.isEmpty_iff]

theorem meets_join {a b key : String} :
    (⟨a ++ "," ++ b⟩ : KeyFilter).Meets key ↔
      (⟨a⟩ : KeyFilter).Meets key ∨ (⟨b⟩ : KeyFilter).Meets key := by
  simp only [Meets, terms_join, List.mem_append, or_and_right, exists_or]

theorem passes_join {a b key : String} :
    (⟨a ++ "," ++ b⟩ : KeyFilter).passes key = true ↔
      (¬HasTerm a ∧ ¬HasTerm b) ∨ (HasTerm a ∧ (⟨a⟩ : KeyFilter).passes key = true) ∨
        HasTerm b ∧ (⟨b⟩ : KeyFilter).passes key = true := by
  rw [passes_iff, isEmpty_join, Bool.and_eq_true, isEmpty_iff, isEmpty_iff, meets_join,
    hasTerm_and_passes_iff, hasTerm_and_passes_iff]

theorem passes_join_of_passes {a key : String} (ha : HasTerm a) (b : String)
    (h : (⟨a⟩ : KeyFilter).passes key = true) :
    (⟨a ++ "," ++ b⟩ : KeyFilter).passes key = true :=
  passes_join.mpr (Or.inr (Or.inl ⟨ha, h⟩))

/-! ## The columns that stay -/

theorem visibleKeys_sublist_join {a : String} (ha : HasTerm a) (b : String) (s : ViewState)
    (runs : List Run) (c : Category) :
    ((s.apply (.setParamFilter a)).visibleKeys runs c).Sublist
        ((s.apply (.setParamFilter (a ++ "," ++ b))).visibleKeys runs c) ∧
      ((s.apply (.setMetricFilter a)).visibleKeys runs c).Sublist
        ((s.apply (.setMetricFilter (a ++ "," ++ b))).visibleKeys runs c) := by
  have hparam : ∀ key, (s.apply (.setParamFilter a)).passes c key = true →
      (s.apply (.setParamFilter (a ++ "," ++ b))).passes c key = true := by
    intro key h
    cases c with
    | params => exact passes_join_of_passes ha b h
    | attributes | metrics | tags => exact h
  have hmetric : ∀ key, (s.apply (.setMetricFilter a)).passes c key = true →
      (s.apply (.setMetricFilter (a ++ "," ++ b))).passes c key = true := by
    intro key h
    cases c with
    | metrics => exact passes_join_of_passes ha b h
    | attributes | params | tags => exact h
  exact ⟨ViewState.visibleKeys_sublist hparam rfl runs,
    ViewState.visibleKeys_sublist hmetric rfl runs⟩

/-- **What two filters pass together.** Two texts with a comma between them pass
what either passes by a term of its own, and everything if neither has a term.
Text without a term adds nothing at either end and parts two filters as a comma
does if it has one; the order of texts between commas makes no difference; and
whatever is added behind a filter that has a term takes no column away. -/
theorem passes_joined (a b : String) :
    let filter (text : String) : KeyFilter := ⟨text⟩
    let joined := filter (a ++ "," ++ b)
    (∀ key, joined.passes key = true ↔ (¬HasTerm a ∧ ¬HasTerm b) ∨
      (HasTerm a ∧ (filter a).passes key = true) ∨ HasTerm b ∧ (filter b).passes key = true) ∧
    joined.isEmpty = ((filter a).isEmpty && (filter b).isEmpty) ∧
    (∀ text, (filter text).isEmpty = true ↔ ¬HasTerm text) ∧
    (∀ pad, ¬HasTerm pad → ∀ key,
      (filter (pad ++ a)).passes key = (filter a).passes key ∧
      (filter (a ++ pad)).passes key = (filter a).passes key ∧
      (',' ∈ pad.toList → (filter (a ++ pad ++ b)).passes key = joined.passes key)) ∧
    (∀ texts texts' : List String, texts.Perm texts' → ∀ key,
      (filter (",".intercalate texts)).passes key =
        (filter (",".intercalate texts')).passes key) ∧
    (HasTerm a → (∀ keys, ((filter a).apply keys).Sublist (joined.apply keys)) ∧
      ∀ (s : ViewState) runs c,
        ((s.apply (.setParamFilter a)).visibleKeys runs c).Sublist
          ((s.apply (.setParamFilter (a ++ "," ++ b))).visibleKeys runs c) ∧
        ((s.apply (.setMetricFilter a)).visibleKeys runs c).Sublist
          ((s.apply (.setMetricFilter (a ++ "," ++ b))).visibleKeys runs c)) := by
  intro filter joined
  refine ⟨fun key => passes_join, isEmpty_join a b, fun text => isEmpty_iff,
    fun pad hpad key => ⟨?_, ?_, fun hcomma => ?_⟩, fun texts texts' hperm key => ?_,
    fun ha => ⟨fun keys => ?_, visibleKeys_sublist_join ha b⟩⟩
  · have hterms : (filter (pad ++ a)).terms = (filter a).terms := by
      rw [terms, String.toList_append, termsOf_padding_append (forall_padding hpad), terms]
    exact passes_congr (fun t => by rw [hterms]) key
  · have hterms : (filter (a ++ pad)).terms = (filter a).terms := by
      rw [terms, String.toList_append, termsOf_append_padding (forall_padding hpad), terms]
    exact passes_congr (fun t => by rw [hterms]) key
  · have hterms : (filter (a ++ pad ++ b)).terms = joined.terms := by
      rw [terms_join, terms, String.toList_append, String.toList_append,
        termsOf_padded_join (forall_padding hpad) hcomma, terms, terms]
    exact passes_congr (fun t => by rw [hterms]) key
  · refine passes_congr (fun t => ?_) key
    rw [terms_intercalate, terms_intercalate]
    exact (hperm.flatMap_right _).mem_iff
  · exact List.monotone_filter_right _ fun key hkey => passes_join_of_passes ha b hkey

/-- A term in capitals after a blank, padding with two commas, and a second term. -/
theorem passes_joined_loss :
    let filter (text : String) : KeyFilter := ⟨text⟩
    let keys := ["val_loss", "lr", "ACCURACY"]
    HasTerm " Loss" ∧ (filter " Loss").apply keys = ["val_loss"] ∧
      ["val_loss"].Sublist ((filter " Loss,acc").apply keys) ∧
      ¬HasTerm " ,\t, " ∧ ',' ∈ " ,\t, ".toList ∧ (filter " Loss,acc").passes "lr" = false ∧
      (filter " Loss ,\t, acc").passes "lr" = false ∧
      [" Loss", "acc"].Perm ["acc", " Loss"] ∧ (filter "acc, Loss").passes "ACCURACY" = true := by
  intro filter keys
  obtain ⟨hjoined, _, _, hpadded, hperm, hadded⟩ := passes_joined " Loss" "acc"
  have hloss : HasTerm " Loss" := by decide
  have hpad : ¬HasTerm " ,\t, " := by decide
  have hcomma : ',' ∈ " ,\t, ".toList := by decide
  have hkeys : (filter " Loss").apply keys = ["val_loss"] := by decide
  have hlr : (filter " Loss,acc").passes "lr" = false := by decide
  have horder : [" Loss", "acc"].Perm ["acc", " Loss"] := List.Perm.swap _ _ _
  have haccuracy : (filter " Loss,acc").passes "ACCURACY" = true :=
    (hjoined "ACCURACY").mpr (by decide)
  refine ⟨hloss, hkeys, ?_, hpad, hcomma, hlr, ?_, horder, ?_⟩
  · rw [← hkeys]
    exact (hadded hloss).1 keys
  · rw [← hlr]
    exact (hpadded " ,\t, " hpad "lr").2.2 hcomma
  · rw [← haccuracy]
    exact (hperm _ _ horder "ACCURACY").symm

end KeyFilter

end RunTable
