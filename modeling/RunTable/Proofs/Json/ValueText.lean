import RunTable.Proofs.Json.Numerals
import RunTable.Proofs.Json.Written

/-! # The text of a value

A canonical value comes back from its document, whatever its strings and the
names of its members hold, if its numbers read back and its levels of nesting
are granted (`Value.ofDocument?_toDocument`). A value that was read has no more
levels than were granted for reading it (`Value.levels_of_ofDocument?`), so it
can be written and read again. -/

namespace RunTable.Json

namespace Value

theorem itemDocuments_eq (items : List Value) : itemDocuments items = items.map toDocument := by
  induction items with
  | nil => rfl
  | cons v items ih => rw [itemDocuments, ih, List.map_cons]

theorem memberDocuments_eq (members : List (String × Value)) :
    memberDocuments members = members.map fun m => (some m.1, m.2.toDocument) := by
  induction members with
  | nil => rfl
  | cons m members ih => rw [memberDocuments, ih, List.map_cons]

/-! ## Writing -/

mutual

theorem proper_toDocument (v : Value) : v.toDocument.Proper := by
  cases v with
  | null => exact Document.proper_null
  | bool b => exact Document.proper_bool b
  | integer n => exact Document.proper_number (Numeral.proper_ofInt n.val)
  | double d => exact Document.proper_number (Numeral.proper_ofDouble d)
  | string s => exact Document.proper_text s
  | array items => exact Document.proper_array (proper_itemDocuments items)
  | object members => exact Document.proper_object (proper_memberDocuments members)

theorem proper_itemDocuments (items : List Value) : ∀ d ∈ itemDocuments items, d.Proper := by
  cases items with
  | nil => simp [itemDocuments]
  | cons v items =>
    rw [itemDocuments, List.forall_mem_cons]
    exact ⟨proper_toDocument v, proper_itemDocuments items⟩

theorem proper_memberDocuments (members : List (String × Value)) :
    ∀ m ∈ memberDocuments members, m.1.isSome = true ∧ m.2.Proper := by
  cases members with
  | nil => simp [memberDocuments]
  | cons m members =>
    rw [memberDocuments, List.forall_mem_cons]
    exact ⟨⟨rfl, proper_toDocument m.2⟩, proper_memberDocuments members⟩

end

/-! ## Reading what was written -/

mutual

/-- The floating-point numbers in a value. -/
def doubles : Value → List Double
  | .double d => [d]
  | .array items => itemDoubles items
  | .object members => memberDoubles members
  | .null | .bool _ | .integer _ | .string _ => []

def itemDoubles : List Value → List Double
  | [] => []
  | v :: rest => v.doubles ++ itemDoubles rest

def memberDoubles : List (String × Value) → List Double
  | [] => []
  | (_, v) :: rest => v.doubles ++ memberDoubles rest

end

/-- Members in canonical order stay in their order. -/
theorem sortMembers_of_canonical {members : List (String × Value)}
    (h : (Value.object members).Canonical) : sortMembers members = members := by
  have hsorted : (([] ++ members).map Prod.fst).Pairwise (· < ·) := h.1
  exact foldl_insertEntry_of_ascending hsorted

mutual

/-- A canonical value comes back from its document. -/
theorem ofDocument?_toDocument {v : Value} {depth : Nat} (hcanonical : v.Canonical)
    (hdoubles : ∀ d ∈ v.doubles, ReadsBack d) (hlevels : v.toDocument.levels ≤ depth) :
    ofDocument? depth v.toDocument = some v := by
  cases v with
  | null | bool | string => rfl
  | integer n => exact ofNumeral?_ofInt n
  | double d => exact ofNumeral?_ofDouble (hdoubles d (List.mem_singleton_self d))
  | array items =>
    cases depth with
    | zero => exact absurd hlevels (Nat.not_succ_le_zero _)
    | succ k =>
      have hitems : itemsOf? k (itemDocuments items) = some items :=
        itemsOf?_itemDocuments hcanonical hdoubles (Nat.le_of_succ_le_succ hlevels)
      simp [toDocument, ofDocument?, hitems]
  | object members =>
    cases depth with
    | zero => exact absurd hlevels (Nat.not_succ_le_zero _)
    | succ k =>
      have hmembers : membersOf? k (memberDocuments members) = some members :=
        membersOf?_memberDocuments hcanonical.2 hdoubles (Nat.le_of_succ_le_succ hlevels)
      simp [toDocument, ofDocument?, hmembers, sortMembers_of_canonical hcanonical]

theorem itemsOf?_itemDocuments {items : List Value} {depth : Nat}
    (hcanonical : CanonicalItems items) (hdoubles : ∀ d ∈ itemDoubles items, ReadsBack d)
    (hlevels : Document.itemLevels (itemDocuments items) ≤ depth) :
    itemsOf? depth (itemDocuments items) = some items := by
  cases items with
  | nil => rfl
  | cons v items =>
    rw [itemDoubles, List.forall_mem_append] at hdoubles
    rw [itemDocuments, Document.itemLevels, Nat.max_le] at hlevels
    have hv := ofDocument?_toDocument hcanonical.1 hdoubles.1 hlevels.1
    have hitems := itemsOf?_itemDocuments hcanonical.2 hdoubles.2 hlevels.2
    simp [itemDocuments, itemsOf?, hv, hitems]

theorem membersOf?_memberDocuments {members : List (String × Value)} {depth : Nat}
    (hcanonical : CanonicalMembers members) (hdoubles : ∀ d ∈ memberDoubles members, ReadsBack d)
    (hlevels : Document.memberLevels (memberDocuments members) ≤ depth) :
    membersOf? depth (memberDocuments members) = some members := by
  cases members with
  | nil => rfl
  | cons m members =>
    rw [memberDoubles, List.forall_mem_append] at hdoubles
    rw [memberDocuments, Document.memberLevels, Nat.max_le] at hlevels
    have hv := ofDocument?_toDocument hcanonical.1 hdoubles.1 hlevels.1
    have hmembers := membersOf?_memberDocuments hcanonical.2 hdoubles.2 hlevels.2
    simp [memberDocuments, membersOf?, hv, hmembers]

end

/-! ## Nesting -/

theorem levels_of_ofNumeral? {n : Numeral} {v : Value} (h : ofNumeral? n = some v) :
    v.toDocument.levels = 0 := by
  unfold ofNumeral? at h
  split at h
  · cases h
    rfl
  · obtain ⟨_, _, rfl⟩ := Option.map_eq_some_iff.mp h
    rfl

mutual

/-- A value has no more levels than were granted for reading it. -/
theorem levels_of_ofDocument? {depth : Nat} {d : Document} {v : Value}
    (h : ofDocument? depth d = some v) : v.toDocument.levels ≤ depth := by
  cases d with
  | null | bool =>
    simp only [ofDocument?, Option.some.injEq] at h
    subst h
    exact Nat.zero_le _
  | number n =>
    rw [ofDocument?] at h
    rw [levels_of_ofNumeral? h]
    exact Nat.zero_le _
  | string s =>
    simp only [ofDocument?, Option.map_eq_some_iff] at h
    obtain ⟨_, _, rfl⟩ := h
    exact Nat.zero_le _
  | array items =>
    cases depth with
    | zero => simp [ofDocument?] at h
    | succ k =>
      simp only [ofDocument?, Nat.succ_ne_zero, if_false, Option.map_eq_some_iff] at h
      obtain ⟨vs, hvs, rfl⟩ := h
      rw [toDocument, itemDocuments_eq, Document.levels_array_le, List.forall_mem_map]
      exact levels_of_itemsOf? hvs
  | object members =>
    cases depth with
    | zero => simp [ofDocument?] at h
    | succ k =>
      simp only [ofDocument?, Nat.succ_ne_zero, if_false, Option.map_eq_some_iff] at h
      obtain ⟨vs, hvs, rfl⟩ := h
      rw [toDocument, memberDocuments_eq, Document.levels_object_le, List.forall_mem_map]
      intro m hm
      -- Sorting adds no member.
      rcases mem_foldl_insertEntry vs [] hm with hm | hm
      · exact levels_of_membersOf? hvs m hm
      · cases hm

theorem levels_of_itemsOf? {depth : Nat} {ds : List Document} {vs : List Value}
    (h : itemsOf? depth ds = some vs) : ∀ v ∈ vs, v.toDocument.levels ≤ depth := by
  cases ds with
  | nil =>
    simp only [itemsOf?, Option.some.injEq] at h
    simp [← h]
  | cons d ds =>
    simp only [itemsOf?, Option.bind_eq_bind, Option.bind_eq_some_iff, Option.some.injEq] at h
    obtain ⟨v, hv, vs, hvs, rfl⟩ := h
    rw [List.forall_mem_cons]
    exact ⟨levels_of_ofDocument? hv, levels_of_itemsOf? hvs⟩

theorem levels_of_membersOf? {depth : Nat} {ds : List (Option String × Document)}
    {vs : List (String × Value)} (h : membersOf? depth ds = some vs) :
    ∀ m ∈ vs, m.2.toDocument.levels ≤ depth := by
  cases ds with
  | nil =>
    simp only [membersOf?, Option.some.injEq] at h
    simp [← h]
  | cons m ds =>
    obtain ⟨name, d⟩ := m
    simp only [membersOf?, Option.bind_eq_bind, Option.bind_eq_some_iff, Option.some.injEq] at h
    obtain ⟨name, _, v, hv, vs, hvs, rfl⟩ := h
    rw [List.forall_mem_cons]
    exact ⟨levels_of_ofDocument? hv, levels_of_membersOf? hvs⟩

end

end Value

/-! ## Cells and their maps -/

theorem Cell.ofDocument?_of_value {depth : Nat} {d : Document} {c : Cell}
    (h : Value.ofDocument? depth d = some c.value) : Cell.ofDocument? depth d = some c := by
  unfold Cell.ofDocument?
  split
  · next v hv =>
    rw [h] at hv
    cases hv
    rfl
  · next hv =>
    rw [h] at hv
    cases hv

theorem Cell.value_of_ofDocument? {depth : Nat} {d : Document} {c : Cell}
    (h : Cell.ofDocument? depth d = some c) : Value.ofDocument? depth d = some c.value := by
  unfold Cell.ofDocument? at h
  split at h
  · next v hv =>
    cases h
    exact hv
  · cases h

theorem proper_cellMapDocument (m : KeyMap Cell) : (cellMapDocument m).Proper := by
  refine Document.proper_record fun e he => ?_
  obtain ⟨f, _, rfl⟩ := List.mem_map.mp he
  exact Value.proper_toDocument _

theorem levels_cellMapDocument_le {m : KeyMap Cell} {n : Nat} :
    (cellMapDocument m).levels ≤ n + 1 ↔ ∀ e ∈ m.toList, e.2.value.toDocument.levels ≤ n := by
  rw [cellMapDocument, Document.levels_record_le, List.forall_mem_map]

/-- A map of cells comes back from its document. -/
theorem cellMap?_cellMapDocument {m : KeyMap Cell} {depth : Nat}
    (hdoubles : ∀ e ∈ m.toList, ∀ d ∈ e.2.value.doubles, Value.ReadsBack d)
    (hlevels : (cellMapDocument m).levels ≤ depth) :
    (cellMapDocument m).cellMap? depth = some m := by
  cases depth with
  | zero => exact absurd hlevels (Nat.not_succ_le_zero _)
  | succ k =>
    rw [levels_cellMapDocument_le] at hlevels
    have hdocument : cellMapDocument m =
        .object (m.toList.map fun e => (some e.1, e.2.value.toDocument)) := by
      rw [cellMapDocument, Document.record, List.map_map]
      rfl
    rw [hdocument, Document.cellMap?, if_neg (Nat.succ_ne_zero k), Nat.add_sub_cancel,
      Document.mapM_map_eq_some]
    · show some (KeyMap.ofList m.toList) = some m
      rw [KeyMap.ofList_toList]
    · intro e he
      have hvalue := Value.ofDocument?_toDocument e.2.canonical (hdoubles e he) (hlevels e he)
      simp [Cell.ofDocument?_of_value hvalue]

/-- A map of cells has no more levels than were granted for reading it. -/
theorem levels_of_cellMap? {depth : Nat} {d : Document} {m : KeyMap Cell}
    (h : d.cellMap? depth = some m) : (cellMapDocument m).levels ≤ depth := by
  cases d with
  | object members =>
    cases depth with
    | zero => simp [Document.cellMap?] at h
    | succ k =>
      simp only [Document.cellMap?, Nat.succ_ne_zero, if_false, Nat.add_sub_cancel,
        Option.bind_eq_bind, Option.bind_eq_some_iff, Option.some.injEq] at h
      obtain ⟨entries, hentries, rfl⟩ := h
      rw [levels_cellMapDocument_le, KeyMap.ofList, KeyMap.toList_foldl_insert]
      intro e he
      rcases Value.mem_foldl_insertEntry entries [] he with he | he
      · obtain ⟨⟨name, d⟩, _, hd⟩ := Document.exists_of_mem_mapM hentries e he
        simp only [Option.bind_eq_some_iff, Option.some.injEq] at hd
        obtain ⟨name, _, c, hc, rfl⟩ := hd
        exact Value.levels_of_ofDocument? (Cell.value_of_ofDocument? hc)
      · cases he
  | null | bool | number | string | array => simp [Document.cellMap?] at h

end RunTable.Json
