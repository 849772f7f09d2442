import RunTable.Proofs.Storage.LastWritten

/-! # The list and the order of the writings

The list is to start with the experiment that was written last. A row remembers
the second of its last writing, and its place in the table tells when it was
made. Both are read off the calls here (`writings`), and every call keeps them
right (`Database.Dated.call`). So the list goes by the seconds, and of rows that
were written in one second the younger comes first (`Database.Dated.pairwise_list`).
That is the order of the writings only if no row is written again in the second
in which a younger one was written: such a row stays behind. -/

namespace RunTable

/-- A call that wrote into a row: how many calls went before it, and its second. -/
structure Writing where
  place : Nat
  second : Int
  deriving DecidableEq

/-- Whether a call writes something for an experiment. -/
def DatabaseCall.writes (x : String) (c : DatabaseCall) : Bool :=
  (c.leavesFor? x).join.isSome

/-- The writings into the row that an experiment has after calls: those after
which no row of it was removed. -/
def writings (calls : List (Int × DatabaseCall)) (x : String) : List Writing :=
  calls.zipIdx.filterMap fun w =>
    if w.1.2.writes x && (calls.drop (w.2 + 1)).all (!·.2.removes x) then some ⟨w.2, w.1.1⟩
    else none

variable {calls : List (Int × DatabaseCall)} {c : Int × DatabaseCall} {x : String}

theorem writings_append (calls : List (Int × DatabaseCall)) (c : Int × DatabaseCall) (x : String) :
    writings (calls ++ [c]) x =
      (if c.2.removes x then [] else writings calls x) ++
        (if c.2.writes x then [⟨calls.length, c.1⟩] else []) := by
  have later {w} (hw : w ∈ calls.zipIdx) :
      (calls ++ [c]).drop (w.2 + 1) = calls.drop (w.2 + 1) ++ [c] :=
    List.drop_append_of_le_length (List.snd_lt_of_mem_zipIdx hw)
  unfold writings
  rw [List.zipIdx_append, List.filterMap_append]
  congr 1
  · cases hc : c.2.removes x with
    | true =>
      refine List.filterMap_eq_nil_iff.mpr fun w hw => ?_
      simp [later hw, hc]
    | false =>
      refine List.filterMap_congr fun w hw => ?_
      simp only [later hw, List.all_append, List.all_cons, List.all_nil, hc, Bool.not_false,
        Bool.and_true]
  · cases h : c.2.writes x <;> simp [h]

/-- A row that is not removed is as old as before. -/
theorem head?_writings_append (stands : writings calls x ≠ []) (spared : c.2.removes x = false) :
    (writings (calls ++ [c]) x).head? = (writings calls x).head? := by
  rw [writings_append, spared, if_neg Bool.false_ne_true]
  exact List.head?_append_of_ne_nil _ stands

theorem second_of_mem_writings {w : Writing} (h : w ∈ writings calls x) :
    calls[w.place]?.map Prod.fst = some w.second := by
  obtain ⟨p, hp, hw⟩ := List.mem_filterMap.mp h
  split at hw
  · cases hw
    rw [List.mem_zipIdx_iff_getElem?.mp hp, Option.map_some]
  · cases hw

theorem place_lt_of_mem_writings {w : Writing} (h : w ∈ writings calls x) :
    w.place < calls.length := by
  have hsecond := second_of_mem_writings h
  by_contra hplace
  rw [List.getElem?_eq_none (Nat.not_lt.mp hplace)] at hsecond
  cases hsecond

theorem second_le_of_place_lt (ascending : (calls.map Prod.fst).Pairwise (· ≤ ·)) {y : String}
    {v w : Writing} (hv : v ∈ writings calls x) (hw : w ∈ writings calls y)
    (before : v.place < w.place) : v.second ≤ w.second := by
  have hv := second_of_mem_writings hv
  have hw := second_of_mem_writings hw
  rw [← List.getElem?_map] at hv hw
  obtain ⟨_, hv⟩ := List.getElem?_eq_some_iff.mp hv
  obtain ⟨_, hw⟩ := List.getElem?_eq_some_iff.mp hw
  rw [← hv, ← hw]
  exact List.pairwise_iff_getElem.mp ascending _ _ _ _ before

/-- The row of an experiment was made by one writing and last written by
another, or by the same. -/
structure Stands (calls : List (Int × DatabaseCall)) (x : String) (made latest : Writing) :
    Prop where
  made : (writings calls x).head? = some made
  latest : (writings calls x).getLast? = some latest

theorem exists_stands : (∃ made latest, Stands calls x made latest) ↔ writings calls x ≠ [] := by
  constructor
  · rintro ⟨made, _, stands⟩
    exact List.ne_nil_of_mem (List.mem_of_mem_head? stands.made)
  · intro hne
    exact ⟨_, _, List.head?_eq_some_head hne, List.getLast?_eq_some_getLast hne⟩

namespace Database

variable {db : Database}

/-! ## One call -/

theorem second_call (db : Database) (second : Int) (c : DatabaseCall) (x : String) :
    ((db.call second c).1.row? x).map (·.second) =
      if c.writes x then some second
      else if c.removes x then none else (db.row? x).map (·.second) := by
  have left := left_call db second c
  unfold DatabaseCall.writes
  generalize (db.call second c).1 = next at left
  cases left with
  | kept idle spares => simp [DatabaseCall.leavesFor?_eq_none idle, spares]
  | wrote concerns leaves spares =>
    rw [row?_putText, DatabaseCall.leavesFor?_eq concerns leaves, spares]
    split <;> rfl
  | @replaced experiment _ same =>
    subst same
    rw [replaceText, row?_putText, row?_delete, DatabaseCall.leavesFor?_eq rfl rfl]
    by_cases hx : x = experiment
    · simp [hx]
    · simp [hx, DatabaseCall.removes, Ne.symm hx]
  | @deleted experiment same =>
    subst same
    rw [row?_delete, DatabaseCall.leavesFor?_eq rfl rfl]
    by_cases hx : x = experiment
    · simp [hx, DatabaseCall.removes]
    · simp [hx, DatabaseCall.removes, Ne.symm hx]

theorem experiments_of_removes {c : DatabaseCall} {experiment : String}
    (h : ∀ x, c.removes x = decide (experiment = x)) :
    db.experiments.filter (!c.removes ·) = (db.delete experiment).1.experiments := by
  rw [experiments_delete]
  refine List.filter_congr fun x _ => ?_
  simp [h, eq_comm]

/-- The rows that a call does not remove stay in their order, and at most one
new row comes after them. -/
theorem experiments_call (db : Database) (second : Int) (c : DatabaseCall) :
    let kept := db.experiments.filter (!c.removes ·)
    (db.call second c).1.experiments = kept ∨
      ∃ e, c.writes e = true ∧ e ∉ kept ∧ (db.call second c).1.experiments = kept ++ [e] := by
  intro kept
  have left := left_call db second c
  generalize (db.call second c).1 = next at left
  have all (spares : ∀ x, c.removes x = false) : kept = db.experiments :=
    List.filter_eq_self.mpr fun x _ => by simp [spares x]
  cases left with
  | kept _ spares => exact Or.inl (all spares).symm
  | @wrote experiment w concerns leaves spares =>
    rw [experiments_putText, all spares]
    split
    · exact Or.inl rfl
    · next hnew =>
      have hwrites : c.writes experiment = true := by
        simp [DatabaseCall.writes, DatabaseCall.leavesFor?_eq concerns leaves]
      exact Or.inr ⟨experiment, hwrites, hnew, rfl⟩
  | @replaced experiment t same =>
    subst same
    have hkept : kept = (db.delete experiment).1.experiments :=
      experiments_of_removes fun _ => rfl
    have hnew : experiment ∉ kept := by
      simp [kept, DatabaseCall.removes]
    have hwrites : (DatabaseCall.replaceText experiment t).writes experiment = true := by
      rw [DatabaseCall.writes, DatabaseCall.leavesFor?_eq rfl rfl, if_pos rfl]
      rfl
    refine Or.inr ⟨experiment, hwrites, hnew, ?_⟩
    rw [replaceText, experiments_putText, ← hkept, if_neg hnew]
  | @deleted experiment same =>
    subst same
    exact Or.inl (experiments_of_removes fun _ => rfl).symm

/-! ## Any calls -/

/-- The row of one experiment was made before that of another. -/
def Older (calls : List (Int × DatabaseCall)) (e f : String) : Prop :=
  ∀ a ∈ (writings calls e).head?, ∀ b ∈ (writings calls f).head?, a.place < b.place

/-- The rows of a database have the seconds and the order that calls tell. -/
structure Dated (db : Database) (calls : List (Int × DatabaseCall)) : Prop where
  single : db.Single
  seconds : ∀ x, (db.row? x).map (·.second) = (writings calls x).getLast?.map (·.second)
  ages : db.experiments.Pairwise (Older calls)

theorem Dated.mem_experiments (h : db.Dated calls) {x : String} :
    x ∈ db.experiments ↔ writings calls x ≠ [] := by
  rw [Database.mem_experiments, ← Option.isSome_map (f := (·.second)), h.seconds,
    Option.isSome_map, List.getLast?_isSome]

/-- A new row has one writing. -/
theorem Dated.writings_append_of_new (h : db.Dated calls) (writes : c.2.writes x = true)
    (new : x ∉ db.experiments.filter (!c.2.removes ·)) :
    writings (calls ++ [c]) x = [⟨calls.length, c.1⟩] := by
  rw [writings_append, if_pos writes]
  split
  · rfl
  · next spared =>
    have absent : x ∉ db.experiments := by
      intro hx
      exact new (List.mem_filter.mpr ⟨hx, by simpa using spared⟩)
    rw [h.mem_experiments, not_not] at absent
    rw [absent]
    rfl

theorem Dated.call (h : db.Dated calls) (c : Int × DatabaseCall) :
    (db.call c.1 c.2).1.Dated (calls ++ [c]) where
  single := h.single.call c.1 c.2
  seconds x := by
    rw [second_call, writings_append]
    cases c.2.writes x with
    | true => simp
    | false => cases c.2.removes x <;> simp [h.seconds]
  ages := by
    have kept : (db.experiments.filter (!c.2.removes ·)).Pairwise (Older (calls ++ [c])) := by
      refine (h.ages.filter _).imp_of_mem fun {e f} he hf older => ?_
      obtain ⟨he, hespared⟩ := List.mem_filter.mp he
      obtain ⟨hf, hfspared⟩ := List.mem_filter.mp hf
      unfold Older
      rw [head?_writings_append (h.mem_experiments.mp he) (by simpa using hespared),
        head?_writings_append (h.mem_experiments.mp hf) (by simpa using hfspared)]
      exact older
    obtain hsame | ⟨e, hwrites, hnew, hnext⟩ := experiments_call db c.1 c.2
    · rw [hsame]
      exact kept
    · rw [hnext]
      refine List.pairwise_append.mpr ⟨kept, List.pairwise_singleton _ _, ?_⟩
      intro x hx y hy
      obtain rfl := List.mem_singleton.mp hy
      intro a ha b hb
      obtain ⟨hx, hxspared⟩ := List.mem_filter.mp hx
      rw [head?_writings_append (h.mem_experiments.mp hx) (by simpa using hxspared)] at ha
      rw [h.writings_append_of_new hwrites hnew] at hb
      cases hb
      exact place_lt_of_mem_writings (List.mem_of_mem_head? ha)

theorem dated_run (calls : List (Int × DatabaseCall)) : (empty.run calls).Dated calls := by
  induction calls using List.reverseRecOn with
  | nil => exact ⟨single_empty, fun _ => rfl, List.Pairwise.nil⟩
  | append_singleton calls c ih =>
    rw [run_append]
    exact ih.call c

/-! ## The list -/

theorem Dated.mem_list (h : db.Dated calls) {x : String} :
    x ∈ db.list ↔ ∃ made latest, Stands calls x made latest := by
  rw [Database.mem_list, h.mem_experiments, exists_stands]

theorem Dated.second_of_stands (h : db.Dated calls) {x : String} {made latest : Writing}
    (stands : Stands calls x made latest) :
    ∃ r, db.row? x = some r ∧ r.second = latest.second := by
  have hsecond := h.seconds x
  rw [stands.latest, Option.map_some] at hsecond
  exact Option.map_eq_some_iff.mp hsecond

theorem Dated.pairwise_list (h : db.Dated calls) :
    db.list.Pairwise fun e f => ∀ made latest made' latest',
      Stands calls e made latest → Stands calls f made' latest' →
        latest'.second < latest.second ∨
          latest'.second = latest.second ∧ made'.place < made.place := by
  refine (h.single.pairwise_list h.ages).imp fun {e f} leads => ?_
  intro made latest made' latest' he hf
  obtain ⟨p, hp, hpsecond⟩ := h.second_of_stands he
  obtain ⟨q, hq, hqsecond⟩ := h.second_of_stands hf
  rw [← hpsecond, ← hqsecond]
  refine (leads p q hp hq).imp id fun ⟨same, older⟩ => ⟨same, ?_⟩
  exact older _ hf.made _ he.made

theorem Dated.sublist_list_iff (h : db.Dated calls) {e f : String}
    {made latest made' latest' : Writing} (differ : e ≠ f) (he : Stands calls e made latest)
    (hf : Stands calls f made' latest') :
    [e, f].Sublist db.list ↔
      latest'.second < latest.second ∨
        latest'.second = latest.second ∧ made'.place < made.place := by
  have leads {e f : String} (first : [e, f].Sublist db.list) :=
    List.pairwise_iff_forall_sublist.mp h.pairwise_list first
  constructor
  · intro first
    exact leads first _ _ _ _ he hf
  · intro later
    rcases pair_sublist_or (h.mem_list.mpr ⟨_, _, he⟩) (h.mem_list.mpr ⟨_, _, hf⟩) differ with
      first | last
    · exact first
    · have hlast := leads last _ _ _ _ hf he
      omega

/-- **The list goes by the seconds, and then by the age of the rows.** After any
calls the list has the experiments with a row, each once. One comes before
another just if it was last written in a later second, or in the same second and
its row was made later. So where no second comes before an earlier one, an
experiment that was written after another comes first just if their seconds
differ or its row was made later. -/
theorem list_by_second_then_row (calls : List (Int × DatabaseCall)) :
    let db := empty.run calls
    db.list.Nodup ∧
      (∀ e, (e ∈ db.list ↔ (db.row? e).isSome = true) ∧
        (e ∈ db.list ↔ ∃ made latest, Stands calls e made latest)) ∧
      ∀ e f made latest made' latest', e ≠ f → Stands calls e made latest →
        Stands calls f made' latest' →
        ([e, f].Sublist db.list ↔
          latest'.second < latest.second ∨
            latest'.second = latest.second ∧ made'.place < made.place) ∧
        ((calls.map Prod.fst).Pairwise (· ≤ ·) → latest'.place < latest.place →
          ([e, f].Sublist db.list ↔
            latest'.second ≠ latest.second ∨ made'.place < made.place)) := by
  intro db
  have dated : db.Dated calls := dated_run calls
  refine ⟨dated.single.nodup_list, fun e => ⟨?_, dated.mem_list⟩, ?_⟩
  · rw [Database.mem_list, mem_experiments]
  intro e f made latest made' latest' differ he hf
  have first := dated.sublist_list_iff differ he hf
  refine ⟨first, fun ascending after => ?_⟩
  have hseconds : latest'.second ≤ latest.second :=
    second_le_of_place_lt ascending (List.mem_of_getLast? hf.latest)
      (List.mem_of_getLast? he.latest) after
  rw [first]
  omega

theorem list_by_second_then_row_remade :
    let calls : List (Int × DatabaseCall) :=
      [(7, .put "a" .initial), (7, .put "b" .initial), (7, .delete "a"), (7, .put "a" .initial)]
    "a" ≠ "b" ∧ Stands calls "a" ⟨3, 7⟩ ⟨3, 7⟩ ∧ Stands calls "b" ⟨1, 7⟩ ⟨1, 7⟩ ∧
      (calls.map Prod.fst).Pairwise (· ≤ ·) ∧ ["a", "b"].Sublist (empty.run calls).list := by
  intro calls
  have differ : "a" ≠ "b" := by decide
  have ha : Stands calls "a" ⟨3, 7⟩ ⟨3, 7⟩ := ⟨rfl, rfl⟩
  have hb : Stands calls "b" ⟨1, 7⟩ ⟨1, 7⟩ := ⟨rfl, rfl⟩
  have ascending : (calls.map Prod.fst).Pairwise (· ≤ ·) := by decide
  have first := (list_by_second_then_row calls).2.2 "a" "b" _ _ _ _ differ ha hb
  exact ⟨differ, ha, hb, ascending, (first.2 ascending (by decide)).mpr (Or.inr (by decide))⟩

/-- A row that is written again in its second stays behind a younger one, though
it was written last. -/
theorem list_behind_last_writing :
    let calls : List (Int × DatabaseCall) := [(7, .put "a" .initial), (7, .put "b" .initial),
      (7, .put "a" { ViewState.initial with search := "lr" })]
    Stands calls "a" ⟨0, 7⟩ ⟨2, 7⟩ ∧ Stands calls "b" ⟨1, 7⟩ ⟨1, 7⟩ ∧
      (empty.run calls).list = ["b", "a"] ∧
      ¬∀ e f made latest made' latest', Stands calls e made latest → Stands calls f made' latest' →
        latest'.place < latest.place → [e, f].Sublist (empty.run calls).list := by
  intro calls
  have ha : Stands calls "a" ⟨0, 7⟩ ⟨2, 7⟩ := ⟨rfl, rfl⟩
  have hb : Stands calls "b" ⟨1, 7⟩ ⟨1, 7⟩ := ⟨rfl, rfl⟩
  have hlist : (empty.run calls).list = ["b", "a"] := by decide +kernel
  refine ⟨ha, hb, hlist, fun recent => ?_⟩
  have first := recent "a" "b" _ _ _ _ ha hb (by decide)
  rw [hlist] at first
  exact absurd first (by decide)

end Database

end RunTable
