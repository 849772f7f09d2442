import RunTable.Json.Cell

/-! # Equality of JSON values

Two JSON values are equal if they are of one kind and have equal parts. An
integer is of another kind than a floating-point number; of the latter two are
equal if they stand at one place in the order of numbers, so a zero equals a
zero of the other sign at every depth. Taking the signs off the zeros decides
this (`Json.Value.equal_iff`). -/

namespace RunTable.Json

theorem order_finite_eq_iff (x y : Double) :
    (Extended.finite x).order (.finite y) = .eq ↔ x.unsigned = y.unsigned := by
  obtain ⟨p, i, hi⟩ := x
  obtain ⟨q, j, hj⟩ := y
  simp only [Extended.order, Extended.rank?, Int.compare_eq_eq, Double.unsigned]
  by_cases hi0 : i = 0 <;> by_cases hj0 : j = 0 <;> cases p <;> cases q <;>
    simp [hi0, hj0, Double.zero] <;> omega

namespace Value

mutual

/-- Two values of one kind with equal parts. An object has its members in order
of names, so two objects are compared member by member. -/
def Equal : Value → Value → Prop
  | .null, .null => True
  | .bool a, .bool b => a = b
  | .integer m, .integer n => m = n
  | .double x, .double y => (Extended.finite x).order (.finite y) = .eq
  | .string s, .string t => s = t
  | .array vs, .array ws => EqualItems vs ws
  | .object vs, .object ws => EqualMembers vs ws
  | _, _ => False

def EqualItems : List Value → List Value → Prop
  | [], [] => True
  | v :: vs, w :: ws => v.Equal w ∧ EqualItems vs ws
  | _, _ => False

def EqualMembers : List (String × Value) → List (String × Value) → Prop
  | [], [] => True
  | (name, v) :: vs, (name', w) :: ws => name = name' ∧ v.Equal w ∧ EqualMembers vs ws
  | _, _ => False

end

mutual

/-- Values are equal just if they are the same once no zero has a sign. -/
theorem equal_iff (v w : Value) : v.Equal w ↔ v.unsigned = w.unsigned := by
  cases v <;> cases w <;>
    simp [Equal, unsigned, order_finite_eq_iff, equalItems_iff, equalMembers_iff]

theorem equalItems_iff (vs ws : List Value) :
    EqualItems vs ws ↔ unsignedItems vs = unsignedItems ws := by
  cases vs <;> cases ws <;> simp [EqualItems, unsignedItems, equal_iff, equalItems_iff]

theorem equalMembers_iff (vs ws : List (String × Value)) :
    EqualMembers vs ws ↔ unsignedMembers vs = unsignedMembers ws := by
  cases vs <;> cases ws <;>
    simp [EqualMembers, unsignedMembers, equal_iff, equalMembers_iff, and_assoc]

end

end Value

theorem Cell.same_iff_equal {v w : Cell} : v.same w = true ↔ v.value.Equal w.value := by
  rw [Value.equal_iff]
  exact decide_eq_true_iff

end RunTable.Json
