import RunTable.Proofs.Json.ValueText
import RunTable.Proofs.Number.Shortest

/-! # What a cell shows tells its value

No two values have one text, since a text is read in one way only and the numeral
of a number tells it apart (`Value.write_injective`). A cell shows a string
without quotes, and no value as nothing. So two cells that show the same hold the
same value if both hold strings, or neither does; a string may well show what
another value shows. Equality overlooks the signs of zeros, and a text does not
(`Cell.same_iff_render`). -/

namespace RunTable

namespace Numeral

theorem ofInt_injective {m n : Int} (h : ofInt m = ofInt n) : m = n := by
  have hsign := congrArg Numeral.negative h
  have hdigits := congrArg (fun n => spelled n.whole) h
  simp only [ofInt, spelled_digits, decide_eq_decide] at hsign hdigits
  omega

theorem ofInt_ne_ofDouble (n : Int) (d : Double) : ofInt n ≠ ofDouble d := by
  intro h
  rcases fraction_ne_nil_or_exponent_ne_none d with hne | hne
  · exact hne (congrArg Numeral.fraction h).symm
  · exact hne (congrArg Numeral.exponent h).symm

end Numeral

namespace Json

namespace Value

/-! ## Texts -/

mutual

theorem toDocument_injective {v w : Value} (h : v.toDocument = w.toDocument) : v = w := by
  cases v <;> cases w <;>
    simp only [toDocument, Document.text, reduceCtorEq, Document.bool.injEq, Document.number.injEq,
      Document.string.injEq, Document.array.injEq, Document.object.injEq, Option.some.injEq] at h
  case null.null => rfl
  case bool.bool => rw [h]
  case integer.integer m n =>
    have hval := Numeral.ofInt_injective h
    cases m
    cases n
    cases hval
    rfl
  case integer.double n d => exact absurd h (Numeral.ofInt_ne_ofDouble n.val d)
  case double.integer d n => exact absurd h.symm (Numeral.ofInt_ne_ofDouble n.val d)
  case double.double => rw [Numeral.ofDouble_injective h]
  case string.string => rw [h]
  case array.array => rw [itemDocuments_injective h]
  case object.object => rw [memberDocuments_injective h]

theorem itemDocuments_injective {vs ws : List Value}
    (h : itemDocuments vs = itemDocuments ws) : vs = ws := by
  cases vs <;> cases ws <;>
    simp only [itemDocuments, reduceCtorEq, List.cons.injEq] at h
  case nil.nil => rfl
  case cons.cons => rw [toDocument_injective h.1, itemDocuments_injective h.2]

theorem memberDocuments_injective {vs ws : List (String × Value)}
    (h : memberDocuments vs = memberDocuments ws) : vs = ws := by
  cases vs <;> cases ws <;>
    simp only [memberDocuments, reduceCtorEq, List.cons.injEq, Prod.mk.injEq,
      Option.some.injEq] at h
  case nil.nil => rfl
  case cons.cons v vs w ws =>
    obtain ⟨⟨hname, hvalue⟩, hrest⟩ := h
    rw [memberDocuments_injective hrest, Prod.ext hname (toDocument_injective hvalue)]

end

/-- No two values have one text. -/
theorem write_injective {v w : Value} (h : v.write = w.write) : v = w := by
  have hread := congrArg Document.read? h
  rw [write, write, Document.read?_write v.proper_toDocument,
    Document.read?_write w.proper_toDocument] at hread
  exact toDocument_injective (Option.some.inj hread)

theorem write_ne_empty (v : Value) : v.write ≠ "" := by
  intro h
  have hread := Document.read?_write v.proper_toDocument
  have hempty : Document.read? "" = some v.toDocument := by rwa [← write, h] at hread
  simp [Document.read?, tokens?, Document.ofTokens?, Reader.run?, Reader.result?] at hempty

/-! ## Zeros without signs -/

theorem keys_unsignedMembers (vs : List (String × Value)) :
    (unsignedMembers vs).map Prod.fst = vs.map Prod.fst := by
  induction vs with
  | nil => rfl
  | cons v vs ih => rw [unsignedMembers, List.map_cons, List.map_cons, ih]

mutual

theorem canonical_unsigned {v : Value} (h : v.Canonical) : v.unsigned.Canonical := by
  cases v with
  | null | bool | integer | double | string => trivial
  | array items => exact canonicalItems_unsigned h
  | object members =>
    refine ⟨?_, canonicalMembers_unsigned h.2⟩
    rw [keys_unsignedMembers]
    exact h.1

theorem canonicalItems_unsigned {vs : List Value} (h : CanonicalItems vs) :
    CanonicalItems (unsignedItems vs) := by
  cases vs with
  | nil => trivial
  | cons v vs => exact ⟨canonical_unsigned h.1, canonicalItems_unsigned h.2⟩

theorem canonicalMembers_unsigned {vs : List (String × Value)} (h : CanonicalMembers vs) :
    CanonicalMembers (unsignedMembers vs) := by
  cases vs with
  | nil => trivial
  | cons v vs => exact ⟨canonical_unsigned h.1, canonicalMembers_unsigned h.2⟩

end

end Value

namespace Cell

variable {v w : Cell}

theorem eq_of_value (h : v.value = w.value) : v = w := by
  cases v
  cases w
  cases h
  rfl

/-- The cell with every zero without a sign. -/
def unsigned (c : Cell) : Cell := ⟨c.value.unsigned, Value.canonical_unsigned c.canonical⟩

/-- Whether a cell holds a string, and so shows it without quotes. -/
def isString (c : Cell) : Bool :=
  match c.value with
  | .string _ => true
  | _ => false

theorem isString_unsigned (c : Cell) : c.unsigned.isString = c.isString := by
  obtain ⟨v, _⟩ := c
  cases v <;> rfl

theorem same_iff_unsigned : v.same w = true ↔ v.unsigned = w.unsigned := by
  rw [same, decide_eq_true_iff]
  exact ⟨fun h => eq_of_value h, congrArg value⟩

theorem value_of_isString (h : v.isString = true) : v.value = .string v.render := by
  obtain ⟨v, _⟩ := v
  cases v with
  | string => rfl
  | null | bool | integer | double | array | object => cases h

theorem render_of_not_isString (h : v.isString = false) :
    v.value = .null ∧ v.render = "" ∨ v.render = v.value.write := by
  obtain ⟨v, _⟩ := v
  cases v with
  | null => exact Or.inl ⟨rfl, rfl⟩
  | string => cases h
  | bool | integer | double | array | object => exact Or.inr rfl

/-- Cells that show the same hold the same, unless just one of them holds a
string. -/
theorem eq_of_render (hkind : v.isString = w.isString) (h : v.render = w.render) : v = w := by
  refine eq_of_value ?_
  cases hw : w.isString with
  | true => rw [value_of_isString (hkind.trans hw), value_of_isString hw, h]
  | false =>
    rcases render_of_not_isString (hkind.trans hw) with ⟨hnull, hempty⟩ | hwrite <;>
      rcases render_of_not_isString hw with ⟨hnull', hempty'⟩ | hwrite'
    · rw [hnull, hnull']
    · rw [hempty, hwrite'] at h
      exact absurd h.symm (Value.write_ne_empty _)
    · rw [hwrite, hempty'] at h
      exact absurd h (Value.write_ne_empty _)
    · rw [hwrite, hwrite'] at h
      exact Value.write_injective h

/-- Two cells are the same just if they are of one kind and show the same, the
signs of zeros overlooked. -/
theorem same_iff_render : v.same w = true ↔
    v.isString = w.isString ∧ v.unsigned.render = w.unsigned.render := by
  rw [same_iff_unsigned]
  constructor
  · intro h
    refine ⟨?_, congrArg render h⟩
    rw [← isString_unsigned v, h, isString_unsigned w]
  · rintro ⟨hkind, h⟩
    refine eq_of_render ?_ h
    rw [isString_unsigned, isString_unsigned, hkind]

end Cell

end Json

end RunTable
