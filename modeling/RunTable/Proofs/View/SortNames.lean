import RunTable.Proofs.Text.Trimming
import RunTable.Run.Columns
import RunTable.View.SortKey

/-! # The columns that a text names

A column to sort by is named by its category, a point and its own name, and the
backticks around that name are taken off, however many there are. So a text names
each column whose name has no backtick at either end, and no other
(`SortKey.exists_parse?_iff`): a key that starts or ends with a backtick reads as
the key without it. -/

namespace RunTable

/-- A name without the backticks at its ends. -/
def unquoted (name : String) : String := .ofList (Text.trimBoth (· == '\x60') name.toList)

/-- Whether a name neither starts nor ends with a backtick. -/
def Bare (name : String) : Prop := Text.Trimmed (· == '\x60') name.toList

theorem bare_unquoted (name : String) : Bare (unquoted name) := by
  rw [Bare, unquoted, String.toList_ofList]
  exact Text.trimmed_trimBoth _ _

theorem unquoted_eq_self_iff {name : String} : unquoted name = name ↔ Bare name := by
  rw [Bare, ← Text.trimBoth_eq_self_iff, unquoted, ← String.toList_inj, String.toList_ofList]

theorem Attribute.bare_label (a : Attribute) : Bare a.label := by
  rw [← unquoted_eq_self_iff]
  cases a <;> decide

theorem Attribute.ofLabel?_label (a : Attribute) : ofLabel? a.label = some a := by
  cases a <;> decide

/-! ## Categories -/

theorem Category.parse_name (c : Category) : parse c.name = .ok c := by
  cases c <;> decide

theorem Category.point_not_mem_of_ofAlias? {text : String} {c : Category}
    (h : ofAlias? text = some c) : '.' ∉ text.toList := by
  unfold ofAlias? at h
  split at h
  -- Each alternative but the last is one name without a point.
  all_goals first
    | simp
    | cases h

/-- No text for a category has a point. -/
theorem Category.point_not_mem {text : String} {c : Category} (h : parse text = .ok c) :
    '.' ∉ text.toList := by
  intro hpoint
  have hlowered : '.' ∈ Text.asciiLower text.toList := List.mem_map.mpr ⟨'.', hpoint, rfl⟩
  cases halias : ofAlias? (.ofList (Text.asciiLower text.toList)) with
  | none => simp [parse, halias] at h
  | some c =>
    refine point_not_mem_of_ofAlias? halias ?_
    rwa [String.toList_ofList]

namespace SortKey

/-- The category of a column to sort by. -/
def category : SortKey → Category
  | .attribute _ => .attributes
  | .param _ => .params
  | .metric _ => .metrics
  | .tag _ => .tags

/-- The name of a column to sort by within its category. -/
def columnName : SortKey → String
  | .attribute a => a.label
  | .param key | .metric key | .tag key => key

/-- The column of a category that a name without quotes stands for. -/
def ofColumn? : Category → String → Option SortKey
  | .attributes, name => (Attribute.ofLabel? name).map .attribute
  | .params, key => some (.param key)
  | .metrics, key => some (.metric key)
  | .tags, key => some (.tag key)

theorem ofColumn?_columnName (k : SortKey) : ofColumn? k.category k.columnName = some k := by
  match k with
  | .attribute a =>
    rw [category, columnName, ofColumn?, Attribute.ofLabel?_label, Option.map_some]
  | .param _ | .metric _ | .tag _ => rfl

theorem columnName_of_ofColumn? {c : Category} {name : String} {k : SortKey}
    (h : ofColumn? c name = some k) :
    k.category = c ∧ ((∃ a, k = .attribute a) ∨ k.columnName = name) := by
  cases c with
  | attributes =>
    obtain ⟨a, _, rfl⟩ := Option.map_eq_some_iff.mp h
    exact ⟨rfl, Or.inl ⟨a, rfl⟩⟩
  | params | metrics | tags =>
    cases h
    exact ⟨rfl, Or.inr rfl⟩

/-- What a text with these two sides of its first point names. -/
theorem parse?_of_splitFirst {s : String} {text name : List Char}
    (h : Text.splitFirst '.' s.toList = some (text, name)) :
    parse? s = match Category.parse (.ofList text) with
      | .ok c => ofColumn? c (unquoted (.ofList name))
      | .error _ => none := by
  simp only [parse?, h, Option.bind_eq_bind, Option.bind_some, unquoted, String.toList_ofList]
  cases Category.parse (.ofList text) with
  | error _ => rfl
  | ok c => cases c <;> rfl

theorem parse?_join {text : String} {c : Category} (hcategory : Category.parse text = .ok c)
    (name : String) : parse? (text ++ "." ++ name) = ofColumn? c (unquoted name) := by
  have hsplit : Text.splitFirst '.' (text ++ "." ++ name).toList =
      some (text.toList, name.toList) := by
    rw [String.toList_append, String.toList_append, List.append_assoc]
    exact Text.splitFirst_append (Category.point_not_mem hcategory) name.toList
  rw [parse?_of_splitFirst hsplit, String.ofList_toList, String.ofList_toList, hcategory]

theorem exists_of_parse? {s : String} {k : SortKey} (h : parse? s = some k) :
    ∃ c name, ofColumn? c (unquoted name) = some k := by
  obtain ⟨⟨text, name⟩, hsplit, _⟩ := Option.bind_eq_some_iff.mp h
  rw [parse?_of_splitFirst hsplit] at h
  cases hcategory : Category.parse (.ofList text) with
  | error _ =>
    rw [hcategory] at h
    cases h
  | ok c =>
    rw [hcategory] at h
    exact ⟨c, .ofList name, h⟩

theorem bare_of_parse? {s : String} {k : SortKey} (h : parse? s = some k) :
    Bare k.columnName := by
  obtain ⟨c, name, hcolumn⟩ := exists_of_parse? h
  rcases columnName_of_ofColumn? hcolumn with ⟨_, ⟨a, rfl⟩ | hname⟩
  · exact a.bare_label
  · rw [hname]
    exact bare_unquoted name

/-- A column that is named at all is named by its own name. -/
theorem parse?_columnName_iff {k : SortKey} :
    parse? (k.category.name ++ "." ++ k.columnName) = some k ↔ Bare k.columnName := by
  refine ⟨bare_of_parse?, fun h => ?_⟩
  rw [parse?_join (Category.parse_name k.category), unquoted_eq_self_iff.mpr h,
    ofColumn?_columnName]

theorem exists_parse?_iff {k : SortKey} : (∃ s, parse? s = some k) ↔ Bare k.columnName := by
  constructor
  · rintro ⟨s, h⟩
    exact bare_of_parse? h
  · intro h
    exact ⟨_, parse?_columnName_iff.mpr h⟩

theorem exists_column {runs : List Run} {c : Category} {key : String}
    (h : key ∈ columnKeys runs c) : ∃ k : SortKey, k.category = c ∧ k.columnName = key := by
  match c with
  | .attributes =>
    obtain ⟨a, _, rfl⟩ := List.mem_map.mp h
    exact ⟨.attribute a, rfl, rfl⟩
  | .params => exact ⟨.param key, rfl, rfl⟩
  | .metrics => exact ⟨.metric key, rfl, rfl⟩
  | .tags => exact ⟨.tag key, rfl, rfl⟩

/-- **Which columns a text names.** Some text names a column just if its name has no
backtick at either end, and then its category, a point and its name do. So every
attribute can be named, and of the keys in a table those without a backtick at
either end. However the category is written, a key is read without the backticks
at its ends, and names the column that is called so. -/
theorem named_iff_bare (k : SortKey) :
    ((∃ s, parse? s = some k) ↔ Bare k.columnName) ∧
    (parse? (k.category.name ++ "." ++ k.columnName) = some k ↔ Bare k.columnName) ∧
    (∀ a : Attribute, parse? ("attributes." ++ a.label) = some (.attribute a)) ∧
    (∀ (runs : List Run) (c : Category), ∀ key ∈ columnKeys runs c,
      (∃ s k, parse? s = some k ∧ k.category = c ∧ k.columnName = key) ↔ Bare key) ∧
    ∀ (text : String) (c : Category), Category.parse text = .ok c → c ≠ .attributes →
      ∀ key, ∃ k, parse? (text ++ "." ++ key) = some k ∧ k.category = c ∧
        k.columnName = unquoted key := by
  refine ⟨exists_parse?_iff, parse?_columnName_iff, fun a => ?_,
    fun runs c key hkey => ⟨?_, fun hbare => ?_⟩, fun text c hcategory hc key => ?_⟩
  · exact (parse?_columnName_iff (k := .attribute a)).mpr a.bare_label
  · rintro ⟨s, k, hparse, _, rfl⟩
    exact bare_of_parse? hparse
  · obtain ⟨k, hk, rfl⟩ := exists_column hkey
    exact ⟨_, k, parse?_columnName_iff.mpr hbare, hk, rfl⟩
  · rw [parse?_join hcategory]
    cases c with
    | attributes => exact absurd rfl hc
    | params | metrics | tags => exact ⟨_, rfl, rfl, rfl⟩

/-- A key with a point, a blank and a backtick in it. -/
theorem named_iff_bare_inside :
    let r : Run := ⟨"", none, 0, none, "", "", "", .running, .active,
      KeyMap.empty.insert "lr.a \x60b" .null, .empty, .empty⟩
    "lr.a \x60b" ∈ columnKeys [r] .params ∧
      (∃ s k, parse? s = some k ∧ k.category = .params ∧ k.columnName = "lr.a \x60b") ∧
      Category.parse "Param" = .ok .params ∧ Category.params ≠ .attributes ∧
      ∃ k, parse? ("Param" ++ "." ++ "\x60\x60a\x60") = some k ∧ k.category = .params ∧
        k.columnName = "a" := by
  intro r
  obtain ⟨_, _, _, hlisted, hquoted⟩ := named_iff_bare (.param "a")
  have hkey : "lr.a \x60b" ∈ columnKeys [r] .params := by decide
  have hbare : Bare "lr.a \x60b" := unquoted_eq_self_iff.mp (by decide)
  have hcategory : Category.parse "Param" = .ok .params := by decide
  have hunquoted : unquoted "\x60\x60a\x60" = "a" := by decide
  have hnamed := hquoted "Param" .params hcategory (by decide) "\x60\x60a\x60"
  rw [hunquoted] at hnamed
  exact ⟨hkey, (hlisted [r] .params _ hkey).mpr hbare, hcategory, by decide, hnamed⟩

/-- A table has a column whose key starts with a backtick, and no text names it. -/
theorem unnamed_with_backtick :
    let r : Run := ⟨"", none, 0, none, "", "", "", .running, .active,
      KeyMap.empty.insert "\x60x" .null, .empty, .empty⟩
    "\x60x" ∈ columnKeys [r] .params ∧ parse? "params.\x60x" = some (.param "x") ∧
      (¬∃ s, parse? s = some (.param "\x60x")) ∧ ¬∀ k : SortKey, ∃ s, parse? s = some k := by
  intro r
  have hbare : ¬Bare "\x60x" := by
    rw [← unquoted_eq_self_iff]
    decide
  have hnone : ¬∃ s, parse? s = some (.param "\x60x") := fun h => hbare (exists_parse?_iff.mp h)
  exact ⟨by decide, by decide, hnone, fun hclaim => hnone (hclaim _)⟩

end SortKey

end RunTable
