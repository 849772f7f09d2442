import RunTable.KeySet

/-!
Finite maps from keys to values, kept as lists of entries in strictly ascending order of their
keys. Because a map has one list only, two maps that give the same value for every key are equal
(`KeyMap.ext`), its own entries make up the map again (`KeyMap.ofList_toList`), and each operation
is known by what it makes of a look-up (`get?_insert`, `get?_erase`).
-/

namespace RunTable

def insertEntry {α : Type} (k : String) (v : α) : List (String × α) → List (String × α)
  | [] => [(k, v)]
  | (x, w) :: es =>
    if k < x then (k, v) :: (x, w) :: es
    else if k = x then (x, v) :: es
    else (x, w) :: insertEntry k v es

theorem keys_insertEntry {α : Type} (k : String) (v : α) (es : List (String × α)) :
    (insertEntry k v es).map Prod.fst = insertKey k (es.map Prod.fst) := by
  induction es with
  | nil => rfl
  | cons e es ih =>
    obtain ⟨x, w⟩ := e
    simp only [insertEntry, insertKey, List.map_cons]
    split
    · rfl
    · split
      · rfl
      · simp [ih]

/-- An entry whose key comes after all others is put last. -/
theorem insertEntry_of_forall_lt {α : Type} {k : String} {es : List (String × α)}
    (h : ∀ e ∈ es, e.1 < k) (v : α) : insertEntry k v es = es ++ [(k, v)] := by
  induction es with
  | nil => rfl
  | cons e es ih =>
    obtain ⟨hx, hes⟩ := List.forall_mem_cons.1 h
    have hlt : ¬k < e.1 := fun hk => String.lt_irrefl k (String.lt_trans hk hx)
    have hne : ¬k = e.1 := fun hk => String.lt_irrefl k (hk ▸ hx)
    rw [insertEntry, if_neg hlt, if_neg hne, ih hes, List.cons_append]

/-- Entries that come in ascending order stay in their order. -/
theorem foldl_insertEntry_of_ascending {α : Type} {es fs : List (String × α)}
    (h : ((es ++ fs).map Prod.fst).Pairwise (· < ·)) :
    fs.foldl (fun es e => insertEntry e.1 e.2 es) es = es ++ fs := by
  induction fs generalizing es with
  | nil => simp
  | cons f fs ih =>
    have hlast : ∀ e ∈ es, e.1 < f.1 := fun e he => by
      rw [List.map_append, List.map_cons] at h
      exact (List.pairwise_append.1 h).2.2 e.1 (List.mem_map_of_mem he) f.1 List.mem_cons_self
    rw [List.foldl_cons, insertEntry_of_forall_lt hlast, ih (by simpa using h)]
    simp

/-- The value of the first entry with a key. -/
def valueAt {α : Type} (k : String) : List (String × α) → Option α
  | [] => none
  | (x, v) :: es => if k = x then some v else valueAt k es

@[simp] theorem valueAt_cons_self {α : Type} (k : String) (v : α) (es : List (String × α)) :
    valueAt k ((k, v) :: es) = some v := if_pos rfl

@[simp] theorem valueAt_cons_of_ne {α : Type} {k x : String} (h : k ≠ x) (v : α)
    (es : List (String × α)) : valueAt k ((x, v) :: es) = valueAt k es := if_neg h

theorem valueAt_insertEntry {α : Type} (k x : String) (v : α) (es : List (String × α)) :
    valueAt x (insertEntry k v es) = if x = k then some v else valueAt x es := by
  induction es with
  | nil => simp [insertEntry, valueAt]
  | cons e es ih =>
    obtain ⟨y, w⟩ := e
    simp only [insertEntry]
    split
    · rfl
    · split
      · next h => subst h; simp only [valueAt]; split <;> rfl
      · next hne =>
        simp only [valueAt, ih]
        by_cases hy : x = y
        · subst hy; simp [Ne.symm hne]
        · simp [hy]

theorem isSome_valueAt {α : Type} {k : String} {es : List (String × α)} :
    (valueAt k es).isSome = true ↔ k ∈ es.map Prod.fst := by
  induction es with
  | nil => simp [valueAt]
  | cons e es ih =>
    simp only [valueAt, List.map_cons, List.mem_cons]
    by_cases h : k = e.1
    · simp [h]
    · simp [h, ih]

theorem valueAt_eq_none {α : Type} {k : String} {es : List (String × α)}
    (h : k ∉ es.map Prod.fst) : valueAt k es = none := by
  rw [← isSome_valueAt] at h
  simpa using h

theorem valueAt_filter_ne {α : Type} (k x : String) (es : List (String × α)) :
    valueAt x (es.filter fun e => e.1 ≠ k) = if x = k then none else valueAt x es := by
  induction es with
  | nil => simp [valueAt]
  | cons e es ih =>
    obtain ⟨y, w⟩ := e
    by_cases hy : y = k
    · subst hy
      rw [List.filter_cons_of_neg (by simp), ih]
      simp only [valueAt]
      split <;> simp_all
    · rw [List.filter_cons_of_pos (by simpa using hy)]
      simp only [valueAt, ih]
      split
      · next h => simp [h, hy]
      · rfl

/-- Entries with strictly ascending keys and the same look-ups are the same entries. -/
theorem eq_of_ascending_of_valueAt_eq {α : Type} {es fs : List (String × α)}
    (he : (es.map Prod.fst).Pairwise (· < ·)) (hf : (fs.map Prod.fst).Pairwise (· < ·))
    (h : ∀ k, valueAt k es = valueAt k fs) : es = fs := by
  have hkeys : es.map Prod.fst = fs.map Prod.fst :=
    eq_of_ascending_of_mem_iff he hf fun k => by
      rw [← isSome_valueAt, ← isSome_valueAt, h k]
  induction es generalizing fs with
  | nil => cases fs with
    | nil => rfl
    | cons f fs => simp at hkeys
  | cons e es ih =>
    cases fs with
    | nil => simp at hkeys
    | cons f fs =>
      simp only [List.map_cons, List.cons.injEq] at hkeys
      obtain ⟨hhead, htail⟩ := hkeys
      obtain ⟨k, v⟩ := e
      obtain ⟨k', w⟩ := f
      cases hhead
      have hv := h k
      simp only [valueAt, if_true, Option.some.injEq] at hv
      subst hv
      obtain ⟨hel, hes⟩ := List.pairwise_cons.1 he
      obtain ⟨hfl, hfs⟩ := List.pairwise_cons.1 hf
      congr 1
      refine ih hes hfs (fun x => ?_) htail
      by_cases hx : x = k
      · subst hx
        have hn : x ∉ es.map Prod.fst := fun hm => String.lt_irrefl x (hel x hm)
        rw [valueAt_eq_none hn, valueAt_eq_none (htail ▸ hn)]
      · simpa [valueAt, hx] using h x

/-- A finite map with keys as its domain. -/
structure KeyMap (α : Type) where
  /-- The entries in strictly ascending order of their keys. -/
  toList : List (String × α)
  ascending : (toList.map Prod.fst).Pairwise (· < ·)

namespace KeyMap

variable {α β : Type}

instance [DecidableEq α] : DecidableEq (KeyMap α) := fun a b =>
  if h : a.toList = b.toList then
    isTrue (by cases a; cases b; cases h; rfl)
  else
    isFalse fun e => h (e ▸ rfl)

theorem ascending_nil : (([] : List (String × α)).map Prod.fst).Pairwise (· < ·) :=
  List.Pairwise.nil

def empty : KeyMap α := ⟨[], ascending_nil⟩

instance : Inhabited (KeyMap α) := ⟨empty⟩

def get? (m : KeyMap α) (k : String) : Option α := valueAt k m.toList

/-- Maps with the same value under every key are equal. -/
theorem ext {a b : KeyMap α} (h : ∀ k, a.get? k = b.get? k) : a = b := by
  obtain ⟨es, he⟩ := a
  obtain ⟨fs, hf⟩ := b
  congr 1
  exact eq_of_ascending_of_valueAt_eq he hf h

/-- Whether there is a value under a key. -/
def contains (m : KeyMap α) (k : String) : Bool := (m.get? k).isSome

def size (m : KeyMap α) : Nat := m.toList.length

def isEmpty (m : KeyMap α) : Bool := m.toList.isEmpty

def keys (m : KeyMap α) : KeySet := ⟨m.toList.map Prod.fst, m.ascending⟩

/-- The map with a value put under a key, in place of the one there. -/
def insert (m : KeyMap α) (k : String) (v : α) : KeyMap α :=
  ⟨insertEntry k v m.toList, by rw [keys_insertEntry]; exact ascending_insertKey m.ascending⟩

def erase (m : KeyMap α) (k : String) : KeyMap α :=
  ⟨m.toList.filter fun e => e.1 ≠ k, m.ascending.sublist (List.filter_sublist.map _)⟩

/-- The map of the entries of a list; of several under one key the last counts. -/
def ofList (es : List (String × α)) : KeyMap α := es.foldl (fun m e => m.insert e.1 e.2) empty

def map (f : α → β) (m : KeyMap α) : KeyMap β :=
  ⟨m.toList.map fun e => (e.1, f e.2), by
    rw [List.map_map]
    exact (List.map_congr_left (fun _ _ => rfl) :
      m.toList.map (Prod.fst ∘ fun e => (e.1, f e.2)) = m.toList.map Prod.fst) ▸ m.ascending⟩

theorem toList_foldl_insert (m : KeyMap α) (es : List (String × α)) :
    (es.foldl (fun m e => m.insert e.1 e.2) m).toList =
      es.foldl (fun es e => insertEntry e.1 e.2 es) m.toList := by
  induction es generalizing m with
  | nil => rfl
  | cons e es ih => exact ih (m.insert e.1 e.2)

theorem ofList_toList (m : KeyMap α) : ofList m.toList = m := by
  have h : (ofList m.toList).toList = m.toList :=
    (toList_foldl_insert empty m.toList).trans (foldl_insertEntry_of_ascending m.ascending)
  generalize ofList m.toList = n at h
  cases m
  cases n
  cases h
  rfl

@[simp] theorem get?_empty (k : String) : (empty : KeyMap α).get? k = none := rfl

theorem get?_insert (m : KeyMap α) (k x : String) (v : α) :
    (m.insert k v).get? x = if x = k then some v else m.get? x :=
  valueAt_insertEntry k x v m.toList

@[simp] theorem get?_insert_self (m : KeyMap α) (k : String) (v : α) :
    (m.insert k v).get? k = some v := by simp [get?_insert]

theorem get?_insert_of_ne {k x : String} (h : x ≠ k) (m : KeyMap α) (v : α) :
    (m.insert k v).get? x = m.get? x := by simp [get?_insert, h]

theorem get?_erase (m : KeyMap α) (k x : String) :
    (m.erase k).get? x = if x = k then none else m.get? x :=
  valueAt_filter_ne k x m.toList

theorem insert_erase (m : KeyMap α) (k : String) (v : α) :
    (m.erase k).insert k v = m.insert k v := by
  refine ext fun x => ?_
  rw [get?_insert, get?_insert, get?_erase]
  split <;> rfl

theorem mem_keys {m : KeyMap α} {k : String} : k ∈ m.keys ↔ (m.get? k).isSome = true :=
  isSome_valueAt.symm

@[simp] theorem contains_iff {m : KeyMap α} {k : String} : m.contains k = true ↔ k ∈ m.keys :=
  mem_keys.symm

end KeyMap

end RunTable
