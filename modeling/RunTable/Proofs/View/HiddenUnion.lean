import Mathlib.Data.Finset.Card
import RunTable.Proofs.Json.RecordFields
import RunTable.Proofs.View.StoredText

/-! # Hidden keys are known by what they hide

Hidden keys come about by decoding, by setting a category and by union. In
whatever way they did, each category is the one ascending list of the names that
it hides, so that values that hide the same are equal; the laws of union are
those of "or", asked for one name at a time. Their size is that of one finite
set, of the hidden names with their categories. -/

namespace RunTable

open Json

namespace HiddenKeys

variable {a b : HiddenKeys}

/-! ## Union, one name at a time -/

theorem contains_none (c : Category) (key : String) : none.contains c key = false := by
  cases c <;> rfl

theorem contains_union (a b : HiddenKeys) (c : Category) (key : String) :
    (a.union b).contains c key = (a.contains c key || b.contains c key) := by
  rw [Bool.eq_iff_iff, Bool.or_eq_true]
  simp [contains, union]

theorem union_comm (a b : HiddenKeys) : a.union b = b.union a := ext_contains fun c key => by
  rw [contains_union, contains_union, Bool.or_comm]

theorem union_assoc (a b d : HiddenKeys) : (a.union b).union d = a.union (b.union d) :=
  ext_contains fun c key => by simp only [contains_union, Bool.or_assoc]

theorem union_self (a : HiddenKeys) : a.union a = a := ext_contains fun c key => by
  rw [contains_union, Bool.or_self]

theorem union_none (a : HiddenKeys) : a.union none = a := ext_contains fun c key => by
  rw [contains_union, contains_none, Bool.or_false]

theorem eq_iff_contains : a = b ↔ ∀ c key, a.contains c key = b.contains c key := by
  refine ⟨?_, ext_contains⟩
  rintro rfl _ _
  rfl

/-! ## Sizes -/

/-- All hidden names, each with its category. -/
def names (h : HiddenKeys) : List (Category × String) :=
  Category.all.flatMap fun c => (h.get c).toList.map (c, ·)

theorem length_names (h : HiddenKeys) : h.names.length = h.size := by
  simp [names, Category.all, size, get, KeySet.size, Nat.add_assoc]

theorem mem_names {h : HiddenKeys} {c : Category} {key : String} :
    (c, key) ∈ h.names ↔ h.contains c key = true := by
  have hc : c ∈ Category.all := by cases c <;> decide
  simp [names, hc, contains, KeySet.mem_def]

theorem nodup_names (h : HiddenKeys) : h.names.Nodup := by
  refine List.nodup_flatMap.mpr ⟨fun c _ => ?_, ?_⟩
  · have hnodup : (h.get c).toList.Nodup := by
      refine (h.get c).ascending.imp ?_
      rintro x _ hlt rfl
      exact String.lt_irrefl x hlt
    exact hnodup.map fun _ _ heq => (Prod.mk.inj heq).2
  · have hdistinct : Category.all.Nodup := by decide
    refine hdistinct.imp fun {c c'} hne => ?_
    rintro ⟨c'', key⟩ hmem hmem'
    obtain ⟨_, _, heq⟩ := List.mem_map.mp hmem
    obtain ⟨_, _, heq'⟩ := List.mem_map.mp hmem'
    exact hne ((Prod.mk.inj heq).1.trans (Prod.mk.inj heq').1.symm)

theorem card_names (h : HiddenKeys) : h.names.toFinset.card = h.size :=
  (List.toFinset_card_of_nodup h.nodup_names).trans h.length_names

theorem names_union (a b : HiddenKeys) :
    (a.union b).names.toFinset = a.names.toFinset ∪ b.names.toFinset := by
  ext ⟨c, key⟩
  simp only [Finset.mem_union, List.mem_toFinset, mem_names, contains_union, Bool.or_eq_true]

theorem size_union_le (a b : HiddenKeys) : (a.union b).size ≤ a.size + b.size := by
  rw [← card_names, ← card_names, ← card_names, names_union]
  exact Finset.card_union_le ..

theorem size_union_eq_iff : (a.union b).size = a.size + b.size ↔
    ∀ c key, ¬(a.contains c key = true ∧ b.contains c key = true) := by
  rw [← card_names, ← card_names, ← card_names, names_union, Finset.card_union_eq_card_add_card,
    Finset.disjoint_left]
  simp only [Prod.forall, List.mem_toFinset, mem_names, not_and]

theorem isEmpty_iff : a.isEmpty = true ↔ a.size = 0 := by
  rw [← length_names, List.length_eq_zero_iff, names, List.flatMap_eq_nil_iff, isEmpty,
    List.all_eq_true]
  simp only [KeySet.isEmpty, List.isEmpty_iff, List.map_eq_nil_iff]

/-! ## Ways to come about -/

/-- A document lists a name in a category: in the array that it has there. -/
def Lists (d : Document) (c : Category) (key : String) : Prop :=
  ∃ items, d.Has (Category.all.map Category.name) c.name (.array items) ∧ .text key ∈ items

/-- Each category is decoded from its own field. -/
theorem exists_fields {depth : Nat} {d : Document} {hidden : HiddenKeys}
    (h : ofDocument? depth d = some hidden) : ∃ rest field,
      d.fields? (Category.all.map Category.name) = some field ∧
      ∀ c, given? field c.name .empty (Document.keySet? rest) = some (hidden.get c) := by
  simp only [ofDocument?, Option.bind_eq_bind, Option.bind_eq_some_iff, Option.some.injEq] at h
  obtain ⟨⟨rest, field⟩, hrecord, attributes, hattributes, params, hparams, metrics, hmetrics,
    tags, htags, rfl⟩ := h
  refine ⟨rest, field, Document.fields?_of_record? hrecord, fun c => ?_⟩
  cases c with
  | attributes => exact hattributes
  | params => exact hparams
  | metrics => exact hmetrics
  | tags => exact htags

theorem contains_iff_lists {depth : Nat} {d : Document} {hidden : HiddenKeys}
    (h : ofDocument? depth d = some hidden) (c : Category) (key : String) :
    hidden.contains c key = true ↔ Lists d c key := by
  obtain ⟨_, field, hfields, hgiven⟩ := exists_fields h
  have hname : c.name ∈ Category.all.map Category.name := by cases c <;> decide
  rw [contains, KeySet.contains_iff, Document.mem_of_given? (hgiven c), Lists]
  simp only [Document.fields?_eq_some_iff hfields (by decide) hname]

/-- How hidden keys came about. -/
inductive Origin where
  | nothing
  | decoded (depth : Nat) (d : Document)
  | set (before : Origin) (c : Category) (keys : List String)
  | union (a b : Origin)

/-- The hidden keys that come about, unless something cannot be decoded. -/
def Origin.made? : Origin → Option HiddenKeys
  | .nothing => some none
  | .decoded depth d => ofDocument? depth d
  | .set before c keys => before.made?.map (·.set c (.ofList keys))
  | .union a b => do some ((← a.made?).union (← b.made?))

/-- A name was given for a category, and the category was not set since. -/
def Origin.Names : Origin → Category → String → Prop
  | .nothing, _, _ => False
  | .decoded _ d, c, key => Lists d c key
  | .set before c' keys, c, key => if c = c' then key ∈ keys else before.Names c key
  | .union a b, c, key => a.Names c key ∨ b.Names c key

theorem Origin.contains_iff_names {origin : Origin} {made : HiddenKeys}
    (h : origin.made? = some made) (c : Category) (key : String) :
    made.contains c key = true ↔ origin.Names c key := by
  induction origin generalizing made with
  | nothing =>
    obtain rfl := Option.some.inj h
    simp [contains_none, Names]
  | decoded depth d => exact contains_iff_lists h c key
  | set before c' keys ih =>
    obtain ⟨old, hold, rfl⟩ := Option.map_eq_some_iff.mp h
    by_cases hc : c = c'
    · subst hc
      simp [contains, Names]
    · rw [contains, get_set_of_ne old hc, Names, if_neg hc]
      exact ih hold
  | union a b iha ihb =>
    simp only [made?, Option.bind_eq_bind, Option.bind_eq_some_iff, Option.some.injEq] at h
    obtain ⟨x, hx, y, hy, rfl⟩ := h
    rw [contains_union, Bool.or_eq_true, iha hx, ihb hy, Names]

/-- Any hidden keys can come about. -/
theorem exists_origin (a : HiddenKeys) : ∃ origin : Origin, origin.made? = some a :=
  ⟨.decoded 2 a.toDocument, ofDocument?_toDocument 0 a⟩

/-- **Hidden keys are what they hide.** Union obeys the laws of "or", with no
hidden keys as its unit, and hides a name if one of the two does. Values are
equal just if they hide the same names in each category. A union has at most as
many names as the two together, and as many just if no name is hidden by both in
one category; there are none just if the size is zero. All of them can come
about by decoding, setting and union, and however they did, each category is an
ascending list, without repetition, of the names that were given for it. -/
theorem known_by_what_they_hide :
    (∀ a b d : HiddenKeys,
      a.union b = b.union a ∧ (a.union b).union d = a.union (b.union d) ∧ a.union a = a ∧
      a.union none = a ∧ none.union a = a ∧
      (∀ c key, (a.union b).contains c key = (a.contains c key || b.contains c key)) ∧
      (a = b ↔ ∀ c key, a.contains c key = b.contains c key) ∧
      (a.union b).size ≤ a.size + b.size ∧
      ((a.union b).size = a.size + b.size ↔
        ∀ c key, ¬(a.contains c key = true ∧ b.contains c key = true)) ∧
      (a.isEmpty = true ↔ a.size = 0) ∧
      ∃ origin : Origin, origin.made? = some a) ∧
    ∀ (origin : Origin) (made : HiddenKeys), origin.made? = some made → ∀ c,
      (made.get c).toList.Pairwise (· < ·) ∧
      ∀ key, key ∈ (made.get c).toList ↔ origin.Names c key := by
  refine ⟨fun a b d => ⟨union_comm a b, union_assoc a b d, union_self a, union_none a, ?_,
    contains_union a b, eq_iff_contains, size_union_le a b, size_union_eq_iff,
    isEmpty_iff, exists_origin a⟩, fun origin made h c => ⟨(made.get c).ascending, fun key => ?_⟩⟩
  · rw [union_comm, union_none]
  · rw [← Origin.contains_iff_names h]
    exact KeySet.contains_iff.symm

/-- Two categories are decoded, with a name that is repeated and a member that
nobody asked for, one of them is set again, and the union shares a name. -/
theorem known_by_what_they_hide_decoded :
    let d : Document := .record
      [("tags", .texts ["b", "a", "b"]), ("more", .null), ("params", .texts ["seed"])]
    let left : Origin := .set (.decoded 2 d) .params ["z", "lr", "z"]
    let right : Origin := .set .nothing .tags ["c", "a"]
    let a := (HiddenKeys.none.set .tags (.ofList ["a", "b"])).set .params (.ofList ["lr", "z"])
    let b := HiddenKeys.none.set .tags (.ofList ["a", "c"])
    left.made? = some a ∧ (Origin.union left right).made? = some (a.union b) ∧
    ((a.union b).get .tags).toList = ["a", "b", "c"] ∧
    ((a.union b).get .tags).toList.Pairwise (· < ·) ∧
    (∀ key, key ∈ (a.get .params).toList ↔ left.Names .params key) ∧
    a.union b = b.union a ∧ (a.union b).contains .tags "b" = true ∧
    (a.union b).contains .params "seed" = false ∧
    (a.union b).size ≤ a.size + b.size ∧ (a.union b).size ≠ a.size + b.size := by
  intro d left right a b
  have hleft : left.made? = some a := by decide +kernel
  have hboth : (Origin.union left right).made? = some (a.union b) := by decide +kernel
  obtain ⟨laws, made⟩ := known_by_what_they_hide
  obtain ⟨comm, -, -, -, -, contains, -, le, eq_iff, -⟩ := laws a b a
  refine ⟨hleft, hboth, by decide +kernel, (made _ _ hboth .tags).1, (made _ _ hleft .params).2,
    comm, ?_, ?_, le, ?_⟩
  · rw [contains]
    decide +kernel
  · rw [contains]
    decide +kernel
  · rw [Ne, eq_iff]
    exact fun apart => apart .tags "a" (by decide +kernel)

end HiddenKeys

end RunTable
