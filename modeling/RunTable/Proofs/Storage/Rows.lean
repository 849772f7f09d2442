import Mathlib.Data.List.Nodup
import RunTable.Storage.Database

/-! # Rows and the order in which they are listed

A text is written into the row of its experiment if there is one, so that no
experiment gets a second row. New rows come last and no others move: the rows
stand in the order in which they were made. The list of experiments starts from
the second of the last writing, and within one second it falls back on that
order, not on the order of the writings (`Single.pairwise_list`). -/

namespace RunTable.Database

/-- The experiments that have a row, in the order in which the rows were made. -/
def experiments (db : Database) : List String := db.rows.map (·.experiment)

/-- No experiment has two rows. -/
def Single (db : Database) : Prop := db.experiments.Nodup

variable {db : Database}

theorem mem_experiments {x : String} : x ∈ db.experiments ↔ (db.row? x).isSome = true := by
  simp [experiments, row?]

theorem mem_experiments_iff_text? {x : String} :
    x ∈ db.experiments ↔ (db.text? x).isSome = true := by
  rw [mem_experiments, text?, Option.isSome_map]

/-! ## What writing and removing do to the rows -/

theorem experiments_putText (db : Database) (experiment : String) (second : Int) (text : String) :
    (db.putText experiment second text).experiments =
      if experiment ∈ db.experiments then db.experiments else db.experiments ++ [experiment] := by
  by_cases h : experiment ∈ db.experiments
  · rw [if_pos h, putText, if_pos (mem_experiments.mp h), experiments, experiments, List.map_map]
    refine List.map_congr_left fun r _ => ?_
    simp only [Function.comp]
    split <;> rfl
  · rw [if_neg h, putText, if_neg (fun hrow => h (mem_experiments.mpr hrow)), experiments,
      List.map_append]
    rfl

theorem experiments_delete (db : Database) (experiment : String) :
    (db.delete experiment).1.experiments = db.experiments.filter (· ≠ experiment) := by
  rw [experiments, experiments, List.filter_map]
  rfl

theorem single_empty : empty.Single := List.nodup_nil

theorem Single.putText (h : db.Single) (experiment : String) (second : Int) (text : String) :
    (db.putText experiment second text).Single := by
  unfold Single
  rw [experiments_putText]
  split
  · exact h
  · next hnew =>
    refine List.nodup_append.mpr ⟨h, List.nodup_singleton experiment, fun x hx y hy => ?_⟩
    obtain rfl := List.mem_singleton.mp hy
    rintro rfl
    exact hnew hx

theorem Single.delete (h : db.Single) (experiment : String) : (db.delete experiment).1.Single := by
  unfold Single
  rw [experiments_delete]
  exact List.Nodup.filter _ h

/-- The row of an experiment is the only one that it has. -/
theorem Single.row?_of_mem (h : db.Single) {r : StoredRow} (hr : r ∈ db.rows) :
    db.row? r.experiment = some r := by
  obtain ⟨q, hq⟩ := Option.isSome_iff_exists.mp
    (mem_experiments.mp (List.mem_map_of_mem (f := (·.experiment)) hr))
  have hmem : q ∈ db.rows := List.mem_of_find?_eq_some hq
  rw [hq, List.inj_on_of_nodup_map h hmem hr (experiment_of_row? hq)]

/-! ## The list -/

/-- The rows as they are listed. -/
def listedRows (db : Database) : List StoredRow :=
  db.rows.foldl (fun listed r => insertRecent r listed) []

theorem list_eq (db : Database) : db.list = db.listedRows.map (·.experiment) := rfl

theorem perm_insertRecent (r : StoredRow) (listed : List StoredRow) :
    (insertRecent r listed).Perm (r :: listed) := by
  induction listed with
  | nil => exact List.Perm.refl _
  | cons q rest ih =>
    unfold insertRecent
    split
    · exact (ih.cons q).trans (List.Perm.swap r q rest)
    · exact List.Perm.refl _

theorem perm_foldl_insertRecent (rows listed : List StoredRow) :
    (rows.foldl (fun listed r => insertRecent r listed) listed).Perm (rows ++ listed) := by
  induction rows generalizing listed with
  | nil => exact List.Perm.refl _
  | cons r rows ih =>
    calc (rows.foldl (fun listed r => insertRecent r listed) (insertRecent r listed))
      _ |>.Perm (rows ++ insertRecent r listed) := ih _
      _ |>.Perm (rows ++ r :: listed) := (perm_insertRecent r listed).append_left rows
      _ |>.Perm (r :: rows ++ listed) := List.perm_middle

/-- Every row is listed, and once. -/
theorem perm_listedRows (db : Database) : db.listedRows.Perm db.rows := by
  have h := perm_foldl_insertRecent db.rows []
  rwa [List.append_nil] at h

theorem perm_list (db : Database) : db.list.Perm db.experiments := db.perm_listedRows.map _

theorem mem_list {x : String} : x ∈ db.list ↔ x ∈ db.experiments := db.perm_list.mem_iff

theorem Single.nodup_list (h : db.Single) : db.list.Nodup := db.perm_list.nodup_iff.mpr h

/-- A row was written in a later second than another, or in the same second and
it is the younger of the two. -/
def Leads (older : StoredRow → StoredRow → Prop) (a b : StoredRow) : Prop :=
  b.second < a.second ∨ b.second = a.second ∧ older b a

section

variable {older : StoredRow → StoredRow → Prop}

theorem pairwise_insertRecent {r : StoredRow} {listed : List StoredRow}
    (h : listed.Pairwise (Leads older)) (hr : ∀ q ∈ listed, older q r) :
    (insertRecent r listed).Pairwise (Leads older) := by
  induction listed with
  | nil => exact List.pairwise_singleton _ _
  | cons q rest ih =>
    obtain ⟨hq, hrest⟩ := List.pairwise_cons.mp h
    obtain ⟨hqr, hrestr⟩ := List.forall_mem_cons.mp hr
    unfold insertRecent
    split
    · next hlt =>
      refine List.pairwise_cons.mpr ⟨fun p hp => ?_, ih hrest hrestr⟩
      rcases List.mem_cons.mp ((perm_insertRecent r rest).mem_iff.mp hp) with rfl | hp
      · exact Or.inl hlt
      · exact hq p hp
    · next hle =>
      -- No row that is listed was written later, and the new row is younger than all of them.
      have leads : ∀ p, p.second ≤ q.second → older p r → Leads older r p := by
        intro p hp hpr
        rcases Int.lt_or_eq_of_le (Int.le_trans hp (Int.not_lt.mp hle)) with hlt | heq
        · exact Or.inl hlt
        · exact Or.inr ⟨heq, hpr⟩
      refine List.pairwise_cons.mpr ⟨?_, h⟩
      intro p hp
      rcases List.mem_cons.mp hp with rfl | hp
      · exact leads p (Int.le_refl _) hqr
      · refine leads p ?_ (hrestr p hp)
        rcases hq p hp with hlt | ⟨heq, _⟩
        · exact Int.le_of_lt hlt
        · exact Int.le_of_eq heq

theorem pairwise_foldl_insertRecent {rows listed : List StoredRow}
    (hlisted : listed.Pairwise (Leads older)) (hrows : rows.Pairwise older)
    (h : ∀ q ∈ listed, ∀ r ∈ rows, older q r) :
    (rows.foldl (fun listed r => insertRecent r listed) listed).Pairwise (Leads older) := by
  induction rows generalizing listed with
  | nil => exact hlisted
  | cons r rows ih =>
    obtain ⟨hr, hrows⟩ := List.pairwise_cons.mp hrows
    refine ih (pairwise_insertRecent hlisted fun q hq => h q hq r List.mem_cons_self) hrows ?_
    intro q hq p hp
    rcases List.mem_cons.mp ((perm_insertRecent r listed).mem_iff.mp hq) with rfl | hq
    · exact hr p hp
    · exact h q hq p (List.mem_cons_of_mem _ hp)

end

/-- Of two members of a list one comes before the other. -/
theorem pair_sublist_or {names : List String} {e f : String} (he : e ∈ names) (hf : f ∈ names)
    (differ : e ≠ f) : [e, f].Sublist names ∨ [f, e].Sublist names := by
  obtain ⟨before, rest, rfl⟩ := List.append_of_mem he
  rcases List.mem_append.mp hf with hf | hf
  · right
    exact (List.singleton_sublist.mpr hf).append ((List.nil_sublist rest).cons_cons e)
  · left
    have hrest := (List.mem_cons.mp hf).resolve_left differ.symm
    exact ((List.singleton_sublist.mpr hrest).cons_cons e).trans (List.sublist_append_right _ _)

/-- Of two experiments the one that is listed first was written in a later
second, or in the same second and its row is the younger one. -/
theorem Single.pairwise_list (h : db.Single) {older : String → String → Prop}
    (hrows : db.experiments.Pairwise older) :
    db.list.Pairwise fun e f => ∀ p q, db.row? e = some p → db.row? f = some q →
      q.second < p.second ∨ q.second = p.second ∧ older f e := by
  have hlisted : db.listedRows.Pairwise (Leads fun q r => older q.experiment r.experiment) :=
    pairwise_foldl_insertRecent List.Pairwise.nil (List.pairwise_map.mp hrows) nofun
  rw [list_eq, List.pairwise_map]
  refine hlisted.imp_of_mem fun {a b} ha hb hab p q hp hq => ?_
  rw [h.row?_of_mem (db.perm_listedRows.mem_iff.mp ha)] at hp
  rw [h.row?_of_mem (db.perm_listedRows.mem_iff.mp hb)] at hq
  cases hp
  cases hq
  exact hab

end RunTable.Database
