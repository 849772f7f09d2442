import RunTable.Json.Value

/-!
Cells: JSON values in canonical form, where each object has its members in strictly ascending
order of names. Every value that is read from a document is canonical
(`canonical_of_ofDocument?`), so equality of cells is equality of JSON values, except that a zero
has two signs; `Cell.same` overlooks the sign.
-/

namespace RunTable.Json

namespace Value

mutual

/-- Objects have their members in strictly ascending order of names, at every level. -/
def Canonical : Value → Prop
  | .array items => CanonicalItems items
  | .object members => (members.map Prod.fst).Pairwise (· < ·) ∧ CanonicalMembers members
  | _ => True

def CanonicalItems : List Value → Prop
  | [] => True
  | v :: rest => v.Canonical ∧ CanonicalItems rest

def CanonicalMembers : List (String × Value) → Prop
  | [] => True
  | (_, v) :: rest => v.Canonical ∧ CanonicalMembers rest

end

theorem canonicalMembers_iff {members : List (String × Value)} :
    CanonicalMembers members ↔ ∀ m ∈ members, m.2.Canonical := by
  induction members with
  | nil => simp [CanonicalMembers]
  | cons m rest ih => obtain ⟨k, v⟩ := m; simp [CanonicalMembers, ih]

theorem mem_insertEntry {α : Type} {k : String} {v : α} {es : List (String × α)}
    {e : String × α} (h : e ∈ insertEntry k v es) : e = (k, v) ∨ e ∈ es := by
  induction es with
  | nil => simpa [insertEntry] using h
  | cons f es ih =>
    obtain ⟨x, w⟩ := f
    simp only [insertEntry] at h
    split at h
    · simpa using h
    · split at h
      · next hk =>
        subst hk
        rcases List.mem_cons.1 h with h | h
        · exact Or.inl h
        · exact Or.inr (List.mem_cons_of_mem _ h)
      · rcases List.mem_cons.1 h with h | h
        · exact Or.inr (by simp [h])
        · exact (ih h).imp id (List.mem_cons_of_mem _)

theorem mem_foldl_insertEntry {α : Type} (members es : List (String × α)) {e : String × α}
    (h : e ∈ members.foldl (fun es e => insertEntry e.1 e.2 es) es) : e ∈ members ∨ e ∈ es := by
  induction members generalizing es with
  | nil => exact Or.inr h
  | cons m members ih =>
    rcases ih _ h with h | h
    · exact Or.inl (List.mem_cons_of_mem _ h)
    · rcases mem_insertEntry h with rfl | h
      · exact Or.inl List.mem_cons_self
      · exact Or.inr h

theorem ascending_foldl_insertEntry {α : Type} (members es : List (String × α))
    (h : (es.map Prod.fst).Pairwise (· < ·)) :
    ((members.foldl (fun es e => insertEntry e.1 e.2 es) es).map Prod.fst).Pairwise (· < ·) := by
  induction members generalizing es with
  | nil => exact h
  | cons m members ih =>
    exact ih _ (by rw [keys_insertEntry]; exact ascending_insertKey h)

/-- Sorted members are canonical if the members were. -/
theorem canonical_sortMembers {members : List (String × Value)} (h : CanonicalMembers members) :
    (Value.object (sortMembers members)).Canonical := by
  refine ⟨ascending_foldl_insertEntry members [] List.Pairwise.nil, canonicalMembers_iff.2 ?_⟩
  intro m hm
  rcases mem_foldl_insertEntry members [] hm with hm | hm
  · exact canonicalMembers_iff.1 h m hm
  · cases hm

theorem canonical_ofNumeral? {n : Numeral} {v : Value} (h : ofNumeral? n = some v) :
    v.Canonical := by
  unfold ofNumeral? at h
  split at h
  · cases h; trivial
  · obtain ⟨_, _, rfl⟩ := Option.map_eq_some_iff.1 h
    trivial

mutual

/-- The value of a document is canonical. -/
theorem canonical_of_ofDocument? {depth : Nat} {d : Document} {v : Value}
    (h : ofDocument? depth d = some v) : v.Canonical := by
  cases d with
  | null | bool => simp only [ofDocument?, Option.some.injEq] at h; subst h; trivial
  | number n => rw [ofDocument?] at h; exact canonical_ofNumeral? h
  | string s =>
    simp only [ofDocument?, Option.map_eq_some_iff] at h
    obtain ⟨_, _, rfl⟩ := h
    trivial
  | array items =>
    simp only [ofDocument?] at h
    split at h
    · cases h
    · obtain ⟨vs, hvs, rfl⟩ := Option.map_eq_some_iff.1 h
      exact canonical_of_itemsOf? hvs
  | object members =>
    simp only [ofDocument?] at h
    split at h
    · cases h
    · obtain ⟨vs, hvs, rfl⟩ := Option.map_eq_some_iff.1 h
      exact canonical_sortMembers (canonical_of_membersOf? hvs)

theorem canonical_of_itemsOf? {depth : Nat} {ds : List Document} {vs : List Value}
    (h : itemsOf? depth ds = some vs) : CanonicalItems vs := by
  cases ds with
  | nil => simp only [itemsOf?, Option.some.injEq] at h; subst h; trivial
  | cons d ds =>
    simp only [itemsOf?, Option.bind_eq_bind, Option.bind_eq_some_iff, Option.some.injEq] at h
    obtain ⟨v, hv, vs, hvs, rfl⟩ := h
    exact ⟨canonical_of_ofDocument? hv, canonical_of_itemsOf? hvs⟩

theorem canonical_of_membersOf? {depth : Nat} {ds : List (Option String × Document)}
    {vs : List (String × Value)} (h : membersOf? depth ds = some vs) : CanonicalMembers vs := by
  cases ds with
  | nil => simp only [membersOf?, Option.some.injEq] at h; subst h; trivial
  | cons m ds =>
    obtain ⟨name, d⟩ := m
    simp only [membersOf?, Option.bind_eq_bind, Option.bind_eq_some_iff, Option.some.injEq] at h
    obtain ⟨name, _, v, hv, vs, hvs, rfl⟩ := h
    exact ⟨canonical_of_ofDocument? hv, canonical_of_membersOf? hvs⟩

end

mutual

/-- The value with every zero without a sign. -/
def unsigned : Value → Value
  | .double d => .double d.unsigned
  | .array items => .array (unsignedItems items)
  | .object members => .object (unsignedMembers members)
  | v => v

def unsignedItems : List Value → List Value
  | [] => []
  | v :: rest => v.unsigned :: unsignedItems rest

def unsignedMembers : List (String × Value) → List (String × Value)
  | [] => []
  | (name, v) :: rest => (name, v.unsigned) :: unsignedMembers rest

end

end Value

/-- A JSON value in canonical form. -/
structure Cell where
  value : Value
  canonical : value.Canonical

namespace Cell

instance : DecidableEq Cell := fun a b =>
  if h : a.value = b.value then isTrue (by cases a; cases b; cases h; rfl)
  else isFalse fun e => h (e ▸ rfl)

def null : Cell := ⟨.null, trivial⟩

def text (s : String) : Cell := ⟨.string s, trivial⟩

def integer (n : WideInt) : Cell := ⟨.integer n, trivial⟩

instance : Inhabited Cell := ⟨null⟩

def ofDocument? (depth : Nat) (d : Document) : Option Cell :=
  match h : Value.ofDocument? depth d with
  | some v => some ⟨v, Value.canonical_of_ofDocument? h⟩
  | none => none

/-- Whether two cells hold the same JSON value, the sign of zero overlooked. -/
def same (a b : Cell) : Bool := decide (a.value.unsigned = b.value.unsigned)

def isNull (c : Cell) : Bool := decide (c.value = .null)

/-- What a cell shows: a string its characters, no value nothing, any other value its text. -/
def render (c : Cell) : String :=
  match c.value with
  | .null => ""
  | .string s => s
  | v => v.write

end Cell

end RunTable.Json
