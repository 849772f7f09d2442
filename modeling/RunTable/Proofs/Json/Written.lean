import RunTable.Json.Record

/-! # Documents that are written and decoded again

What the encoders build has a simple form: records with a fixed list of
different names, arrays, texts and numerals. Such documents survive being
written (`Document.Proper`), and each decoder takes apart what its encoder
built, as long as there are levels of nesting left. -/

namespace RunTable.Json

namespace Document

/-! ## Writing -/

/-- Every token of the document reads back. -/
def Proper (d : Document) : Prop := ∀ t ∈ d.tokens, t.Proper

theorem proper_null : Proper .null := by simp [Proper, tokens, Token.Proper]

theorem proper_bool (b : Bool) : Proper (.bool b) := by simp [Proper, tokens, Token.Proper]

theorem proper_text (s : String) : Proper (.text s) := by
  simp [Proper, text, tokens, Token.Proper]

theorem proper_number {n : Numeral} (h : n.Proper) : Proper (.number n) := by
  simpa [Proper, tokens, Token.Proper] using h

theorem mem_moreItemTokens {t : Token} {items : List Document} (h : t ∈ moreItemTokens items) :
    t = .comma ∨ t = .closeArray ∨ ∃ d ∈ items, t ∈ d.tokens := by
  induction items with
  | nil => exact .inr (.inl (List.mem_singleton.mp h))
  | cons d items ih =>
    rw [moreItemTokens, List.cons_append, List.mem_cons, List.mem_append] at h
    rcases h with h | h | h
    · exact .inl h
    · exact .inr (.inr ⟨d, List.mem_cons_self, h⟩)
    · rcases ih h with h | h | ⟨e, he, ht⟩
      · exact .inl h
      · exact .inr (.inl h)
      · exact .inr (.inr ⟨e, List.mem_cons_of_mem _ he, ht⟩)

theorem mem_moreMemberTokens {t : Token} {members : List (Option String × Document)}
    (h : t ∈ moreMemberTokens members) :
    t = .comma ∨ t = .colon ∨ t = .closeObject ∨
      ∃ m ∈ members, t = .string m.1 ∨ t ∈ m.2.tokens := by
  induction members with
  | nil => exact .inr (.inr (.inl (List.mem_singleton.mp h)))
  | cons m members ih =>
    simp only [moreMemberTokens, List.cons_append, List.mem_cons, List.mem_append] at h
    rcases h with h | h | h | h | h
    · exact .inl h
    · exact .inr (.inr (.inr ⟨m, List.mem_cons_self, .inl h⟩))
    · exact .inr (.inl h)
    · exact .inr (.inr (.inr ⟨m, List.mem_cons_self, .inr h⟩))
    · rcases ih h with h | h | h | ⟨n, hn, ht⟩
      · exact .inl h
      · exact .inr (.inl h)
      · exact .inr (.inr (.inl h))
      · exact .inr (.inr (.inr ⟨n, List.mem_cons_of_mem _ hn, ht⟩))

theorem proper_array {items : List Document} (h : ∀ d ∈ items, d.Proper) :
    Proper (.array items) := by
  -- The first item lacks the comma that all others have in front.
  have hmore : ∀ t ∈ moreItemTokens items, t.Proper := by
    intro t ht
    rcases mem_moreItemTokens ht with rfl | rfl | ⟨d, hd, ht⟩
    · trivial
    · trivial
    · exact h d hd t ht
  intro t ht
  rcases List.mem_cons.mp ht with rfl | ht
  · trivial
  · cases items with
    | nil => exact hmore t ht
    | cons d items => exact hmore t (List.mem_cons_of_mem _ ht)

theorem proper_object {members : List (Option String × Document)}
    (h : ∀ m ∈ members, m.1.isSome = true ∧ m.2.Proper) : Proper (.object members) := by
  have hmore : ∀ t ∈ moreMemberTokens members, t.Proper := by
    intro t ht
    rcases mem_moreMemberTokens ht with rfl | rfl | rfl | ⟨m, hm, rfl | ht⟩
    · trivial
    · trivial
    · trivial
    · exact (h m hm).1
    · exact (h m hm).2 t ht
  intro t ht
  rcases List.mem_cons.mp ht with rfl | ht
  · trivial
  · cases members with
    | nil => exact hmore t ht
    | cons m members => exact hmore t (List.mem_cons_of_mem _ ht)

theorem proper_texts (ss : List String) : Proper (.texts ss) := by
  refine proper_array fun d hd => ?_
  obtain ⟨s, _, rfl⟩ := List.mem_map.mp hd
  exact proper_text s

theorem proper_record {members : List (String × Document)} (h : ∀ m ∈ members, m.2.Proper) :
    Proper (.record members) := by
  refine proper_object fun m hm => ?_
  obtain ⟨m, hmem, rfl⟩ := List.mem_map.mp hm
  exact ⟨rfl, h m hmem⟩

/-! ## Nesting -/

mutual

/-- How many levels of arrays and objects stand in each other. -/
def levels : Document → Nat
  | .array items => itemLevels items + 1
  | .object members => memberLevels members + 1
  | .null | .bool _ | .number _ | .string _ => 0

def itemLevels : List Document → Nat
  | [] => 0
  | d :: rest => max d.levels (itemLevels rest)

def memberLevels : List (Option String × Document) → Nat
  | [] => 0
  | (_, d) :: rest => max d.levels (memberLevels rest)

end

theorem itemLevels_le {items : List Document} {n : Nat} :
    itemLevels items ≤ n ↔ ∀ d ∈ items, d.levels ≤ n := by
  induction items with
  | nil => simp [itemLevels]
  | cons d items ih => rw [itemLevels, Nat.max_le, ih, List.forall_mem_cons]

theorem memberLevels_le {members : List (Option String × Document)} {n : Nat} :
    memberLevels members ≤ n ↔ ∀ m ∈ members, m.2.levels ≤ n := by
  induction members with
  | nil => simp [memberLevels]
  | cons m members ih => rw [memberLevels, Nat.max_le, ih, List.forall_mem_cons]

theorem levels_array_le {items : List Document} {n : Nat} :
    levels (.array items) ≤ n + 1 ↔ ∀ d ∈ items, d.levels ≤ n := by
  rw [levels, Nat.add_le_add_iff_right, itemLevels_le]

theorem levels_object_le {members : List (Option String × Document)} {n : Nat} :
    levels (.object members) ≤ n + 1 ↔ ∀ m ∈ members, m.2.levels ≤ n := by
  rw [levels, Nat.add_le_add_iff_right, memberLevels_le]

theorem levels_record_le {members : List (String × Document)} {n : Nat} :
    levels (.record members) ≤ n + 1 ↔ ∀ m ∈ members, m.2.levels ≤ n := by
  rw [record, levels_object_le, List.forall_mem_map]

/-! ## Decoding -/

/-- Items that are decoded one by one come back if each of them does. -/
theorem mapM_map_eq_some {α β : Type} {encode : α → β} {decode : β → Option α} {xs : List α}
    (h : ∀ x ∈ xs, decode (encode x) = some x) : (xs.map encode).mapM decode = some xs := by
  induction xs with
  | nil => rfl
  | cons x xs ih =>
    obtain ⟨hx, hxs⟩ := List.forall_mem_cons.mp h
    simp [hx, ih hxs]

/-- Each result was decoded from one of the items. -/
theorem exists_of_mem_mapM {α β : Type} {decode : β → Option α} {ds : List β} {xs : List α}
    (h : ds.mapM decode = some xs) : ∀ x ∈ xs, ∃ d ∈ ds, decode d = some x := by
  induction ds generalizing xs with
  | nil =>
    simp only [List.mapM_nil, Option.pure_def, Option.some.injEq] at h
    simp [← h]
  | cons d ds ih =>
    simp only [List.mapM_cons, Option.bind_eq_bind, Option.bind_eq_some_iff, Option.pure_def,
      Option.some.injEq] at h
    obtain ⟨x, hx, xs, hxs, rfl⟩ := h
    intro y hy
    rcases List.mem_cons.mp hy with rfl | hy
    · exact ⟨d, List.mem_cons_self, hx⟩
    · obtain ⟨e, he, hdecode⟩ := ih hxs y hy
      exact ⟨e, List.mem_cons_of_mem _ he, hdecode⟩

theorem list?_array {α : Type} {encode : α → Document} {decode : Nat → Document → Option α}
    {depth : Nat} {xs : List α} (h : ∀ x ∈ xs, decode depth (encode x) = some x) :
    list? (depth + 1) decode (.array (xs.map encode)) = some xs := mapM_map_eq_some h

theorem keySet?_keySetDocument (depth : Nat) (s : KeySet) :
    (keySetDocument s).keySet? (depth + 1) = some s := by
  have hlist : list? (depth + 1) (fun _ => string?) (.texts s.toList) = some s.toList :=
    list?_array fun _ _ => rfl
  rw [keySet?, keySetDocument, hlist, Option.map_some, KeySet.ofList_toList]

@[simp] theorem string?_text (s : String) : (text s).string? = some s := rfl

@[simp] theorem bool?_bool (b : Bool) : (bool b).bool? = some b := rfl

theorem choice?_text {α : Type} (depth : Nat) (names : List (String × α)) (name : String) :
    (text name).choice? depth names = valueAt name names := rfl

/-- Among members with different names none is given twice. -/
theorem length_filter_le_one {members : List (String × Document)}
    (h : (members.map Prod.fst).Nodup) (name : String) :
    (members.filter (·.1 = name)).length ≤ 1 := by
  have hcount := List.nodup_iff_count.mp h name
  rw [List.count_eq_countP, List.countP_map, List.countP_eq_length_filter] at hcount
  exact hcount

/-- A record gives for each name the member of that name. -/
theorem record?_record {members : List (String × Document)} (h : (members.map Prod.fst).Nodup)
    (depth : Nat) (names : List String) :
    (record members).record? (depth + 1) names =
      some (depth, fun name => valueAt name members) := by
  have hnamed : (members.map fun m => (some m.1, m.2)).mapM
      (fun m : Option String × Document => m.1.map (·, m.2)) = some members :=
    mapM_map_eq_some fun _ _ => rfl
  have hfields : fields? names (record members) = some fun name => valueAt name members := by
    simp only [fields?, record, hnamed, Option.bind_eq_bind, Option.bind_some]
    exact if_pos (List.all_eq_true.mpr fun name _ => decide_eq_true (length_filter_le_one h name))
  rw [record?, if_neg (Nat.succ_ne_zero depth), hfields]
  rfl

theorem variant?_record (depth : Nat) (name : String) (d : Document) :
    (record [(name, d)]).variant? (depth + 1) = some (name, some (depth, d)) := rfl

end Document

end RunTable.Json
