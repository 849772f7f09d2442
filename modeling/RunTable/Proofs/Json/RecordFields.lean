import RunTable.Proofs.Json.Written

/-! # What a record gives for a field

A field is looked for by its name among the members of an object, and by its
place in an array. Since a document that gives a field twice is not accepted,
what is found is all that the document has for the field; the order of the
members does not matter, nor do members with other names. -/

namespace RunTable

theorem mem_of_valueAt {α : Type} {k : String} {v : α} {es : List (String × α)}
    (h : valueAt k es = some v) : (k, v) ∈ es := by
  induction es with
  | nil => cases h
  | cons e es ih =>
    obtain ⟨x, w⟩ := e
    by_cases hx : k = x
    · subst hx
      rw [valueAt_cons_self] at h
      exact Option.some.inj h ▸ List.mem_cons_self
    · rw [valueAt_cons_of_ne hx] at h
      exact List.mem_cons_of_mem _ (ih h)

/-- A key with one entry at most has the value of its entry. -/
theorem valueAt_eq_some_iff {α : Type} {k : String} {v : α} {es : List (String × α)}
    (once : (es.filter (·.1 = k)).length ≤ 1) : valueAt k es = some v ↔ (k, v) ∈ es := by
  refine ⟨mem_of_valueAt, fun hmem => ?_⟩
  have present : (valueAt k es).isSome = true :=
    isSome_valueAt.mpr (List.mem_map.mpr ⟨(k, v), hmem, rfl⟩)
  obtain ⟨w, hw⟩ := Option.isSome_iff_exists.mp present
  have hv : (k, v) ∈ es.filter (·.1 = k) := List.mem_filter.mpr ⟨hmem, by simp⟩
  have hw' : (k, w) ∈ es.filter (·.1 = k) := List.mem_filter.mpr ⟨mem_of_valueAt hw, by simp⟩
  obtain ⟨e, he⟩ := List.length_eq_one_iff.mp
    (Nat.le_antisymm once (List.length_pos_of_mem hv))
  rw [he, List.mem_singleton] at hv hw'
  rw [hw, (Prod.mk.inj (hv.trans hw'.symm)).2]

namespace Json.Document

/-- Each item that can be decoded is among the results. -/
theorem mem_of_mapM {α β : Type} {decode : β → Option α} {ds : List β} {xs : List α}
    (h : ds.mapM decode = some xs) {d : β} {x : α} (hd : d ∈ ds) (hx : decode d = some x) :
    x ∈ xs := by
  induction ds generalizing xs with
  | nil => cases hd
  | cons e ds ih =>
    simp only [List.mapM_cons, Option.bind_eq_bind, Option.bind_eq_some_iff, Option.pure_def,
      Option.some.injEq] at h
    obtain ⟨y, hy, ys, hys, rfl⟩ := h
    rcases List.mem_cons.mp hd with rfl | hd
    · exact Option.some.inj (hy.symm.trans hx) ▸ List.mem_cons_self
    · exact List.mem_cons_of_mem _ (ih hys hd)

/-- A document has a part for one of the named fields: a member with the name,
or the item at its place. -/
def Has (d : Document) (names : List String) (name : String) (part : Document) : Prop :=
  match d with
  | .object members => (some name, part) ∈ members
  | .array items => (name, part) ∈ names.zip items
  | _ => False

variable {d part : Document} {names : List String} {name : String}

theorem fields?_eq_some_iff {field : String → Option Document} (h : d.fields? names = some field)
    (hnames : names.Nodup) (hname : name ∈ names) :
    field name = some part ↔ d.Has names name part := by
  cases d with
  | object members =>
    simp only [fields?, Option.bind_eq_bind, Option.bind_eq_some_iff] at h
    obtain ⟨named, hnamed, h⟩ := h
    split at h
    · next once =>
      obtain rfl := Option.some.inj h
      rw [valueAt_eq_some_iff (of_decide_eq_true (List.all_eq_true.mp once name hname))]
      constructor
      · intro hmem
        obtain ⟨⟨name', part'⟩, hm, hdecode⟩ := exists_of_mem_mapM hnamed _ hmem
        obtain ⟨_, rfl, heq⟩ := Option.map_eq_some_iff.mp hdecode
        cases heq
        exact hm
      · exact fun hm => mem_of_mapM hnamed hm rfl
    · cases h
  | array items =>
    simp only [fields?] at h
    split at h
    · obtain rfl := Option.some.inj h
      have hkeys : ((names.zip items).map Prod.fst).Nodup := by
        rw [List.zip_eq_zip_take_min, List.map_fst_zip (by simp)]
        exact hnames.sublist (List.take_sublist ..)
      exact valueAt_eq_some_iff (length_filter_le_one hkeys name)
    · cases h
  | _ => cases h

theorem fields?_of_record? {depth rest : Nat} {field : String → Option Document}
    (h : d.record? depth names = some (rest, field)) : d.fields? names = some field := by
  unfold record? at h
  split at h
  · cases h
  · obtain ⟨_, hfields, heq⟩ := Option.map_eq_some_iff.mp h
    cases heq
    exact hfields

/-- A set of strings has those that the array holds. -/
theorem mem_of_keySet? {depth : Nat} {s : KeySet} (h : d.keySet? depth = some s) (key : String) :
    key ∈ s ↔ ∃ items, d = .array items ∧ .text key ∈ items := by
  obtain ⟨keys, hkeys, rfl⟩ := Option.map_eq_some_iff.mp h
  rw [KeySet.mem_ofList]
  cases d with
  | array items =>
    simp only [list?] at hkeys
    split at hkeys
    · cases hkeys
    · constructor
      · intro hmem
        obtain ⟨item, hitem, hstring⟩ := exists_of_mem_mapM hkeys key hmem
        cases item with
        | string s =>
          obtain rfl : s = some key := hstring
          exact ⟨items, rfl, hitem⟩
        | _ => cases hstring
      · rintro ⟨_, heq, hitem⟩
        cases heq
        exact mem_of_mapM hkeys hitem rfl
  | _ => cases hkeys

/-- A set that may be left out, and is then without strings, has those of the
array that the document has for its field. -/
theorem mem_of_given? {depth : Nat} {field : String → Option Document} {s : KeySet}
    (h : given? field name .empty (keySet? depth) = some s) (key : String) :
    key ∈ s ↔ ∃ items, field name = some (.array items) ∧ .text key ∈ items := by
  unfold given? at h
  cases hfield : field name with
  | none =>
    rw [hfield] at h
    obtain rfl := Option.some.inj h
    simp
  | some d =>
    rw [hfield] at h
    rw [mem_of_keySet? h]
    simp

end Json.Document

end RunTable
