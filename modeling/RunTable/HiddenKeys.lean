import RunTable.Category
import RunTable.KeySet

/-!
Hidden keys: for each category the set of the column names that are not shown. Since the sets are
canonical, two values are equal exactly if they hide the same keys (`HiddenKeys.ext_contains`).
-/

namespace RunTable

/-- The hidden column names of each category. -/
structure HiddenKeys where
  attributes : KeySet
  params : KeySet
  metrics : KeySet
  tags : KeySet
  deriving DecidableEq

namespace HiddenKeys

def none : HiddenKeys := ⟨.empty, .empty, .empty, .empty⟩

instance : Inhabited HiddenKeys := ⟨none⟩

def get (h : HiddenKeys) : Category → KeySet
  | .attributes => h.attributes
  | .params => h.params
  | .metrics => h.metrics
  | .tags => h.tags

def set (h : HiddenKeys) (c : Category) (keys : KeySet) : HiddenKeys :=
  match c with
  | .attributes => { h with attributes := keys }
  | .params => { h with params := keys }
  | .metrics => { h with metrics := keys }
  | .tags => { h with tags := keys }

def ofCategories (f : Category → KeySet) : HiddenKeys :=
  ⟨f .attributes, f .params, f .metrics, f .tags⟩

/-- Whether a name is hidden in a category. -/
def contains (h : HiddenKeys) (c : Category) (key : String) : Bool := (h.get c).contains key

def union (a b : HiddenKeys) : HiddenKeys := ofCategories fun c => (a.get c).union (b.get c)

def isEmpty (h : HiddenKeys) : Bool := Category.all.all fun c => (h.get c).isEmpty

def size (h : HiddenKeys) : Nat :=
  h.attributes.size + h.params.size + h.metrics.size + h.tags.size

@[simp] theorem get_ofCategories (f : Category → KeySet) (c : Category) :
    (ofCategories f).get c = f c := by cases c <;> rfl

@[simp] theorem get_set_self (h : HiddenKeys) (c : Category) (keys : KeySet) :
    (h.set c keys).get c = keys := by cases c <;> rfl

theorem get_set_of_ne (h : HiddenKeys) {c c' : Category} (hne : c' ≠ c) (keys : KeySet) :
    (h.set c keys).get c' = h.get c' := by
  cases c <;> cases c' <;> first | rfl | exact absurd rfl hne

@[simp] theorem set_set (h : HiddenKeys) (c : Category) (keys keys' : KeySet) :
    (h.set c keys).set c keys' = h.set c keys' := by cases c <;> rfl

theorem set_comm (h : HiddenKeys) {c c' : Category} (hne : c ≠ c') (keys keys' : KeySet) :
    (h.set c keys).set c' keys' = (h.set c' keys').set c keys := by
  cases c <;> cases c' <;> first | rfl | exact absurd rfl hne

/-- Hidden keys that agree in every category are equal. -/
theorem ext_get {a b : HiddenKeys} (h : ∀ c, a.get c = b.get c) : a = b := by
  obtain ⟨_, _, _, _⟩ := a
  obtain ⟨_, _, _, _⟩ := b
  have h₁ := h .attributes
  have h₂ := h .params
  have h₃ := h .metrics
  have h₄ := h .tags
  simp only [get] at h₁ h₂ h₃ h₄
  simp [h₁, h₂, h₃, h₄]

/-- Hidden keys that hide the same names are equal. -/
theorem ext_contains {a b : HiddenKeys} (h : ∀ c k, a.contains c k = b.contains c k) : a = b :=
  ext_get fun c => KeySet.ext fun k => by
    have := h c k
    simp only [contains] at this
    rw [← KeySet.contains_iff, ← KeySet.contains_iff, this]

end HiddenKeys

end RunTable
