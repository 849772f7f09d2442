import RunTable.Export.Sheet
import RunTable.Proofs.Export.CsvReader

/-! # What a reader of an exported sheet finds

The records are described by what they show, not by how they are gathered: the
columns of a category are the strictly ascending keys that some run has and
that are not hidden in this category. There is one such list only, so
`IsTable` fixes every record. -/

namespace RunTable.Sheet

/-- Something is left to be shown: an attribute, or a key that a run has. -/
def LeavesColumn (runs : List Run) (hidden : HiddenKeys) : Prop :=
  (∃ a : Attribute, a.label ∉ hidden.attributes) ∨
    ∃ c ∈ Category.keyed, ∃ r ∈ runs, ∃ k ∈ (r.cells c).keys, k ∉ hidden.get c

/-- The records show a table: the names of its columns, then the cells of each
run, with nothing where the run lacks the key. -/
structure IsTable (runs : List Run) (hidden : HiddenKeys) (keys : Category → List String)
    (found : List (List String)) : Prop where
  ascending : ∀ c ∈ Category.keyed, (keys c).Pairwise (· < ·)
  mem_keys : ∀ c ∈ Category.keyed, ∀ k,
    k ∈ keys c ↔ (∃ r ∈ runs, k ∈ (r.cells c).keys) ∧ k ∉ hidden.get c
  length : found.length = runs.length + 1
  width : ∃ n, ∀ fields ∈ found, fields.length = n
  head : found[0]? = some
    ((Attribute.all.map Attribute.label).filter (fun l => l ∉ hidden.attributes) ++
      keys .params ++ keys .metrics ++ keys .tags)
  body : ∀ i r, runs[i]? = some r →
    let cells (c : Category) := (keys c).map fun k =>
      match (r.cells c).get? k with
      | some v => v.render
      | none => ""
    found[i + 1]? = some
      ((Attribute.all.filter (fun a => a.label ∉ hidden.attributes)).map (·.cellText r) ++
        cells .params ++ cells .metrics ++ cells .tags)

/-! ## Columns -/

theorem ne_attributes_of_mem_keyed {c : Category} (h : c ∈ Category.keyed) : c ≠ .attributes := by
  rintro rfl
  simp [Category.keyed] at h

theorem ascending_columnKeys (runs : List Run) {c : Category} (h : c ∈ Category.keyed) :
    (columnKeys runs c).Pairwise (· < ·) := by
  cases c with
  | attributes => exact absurd rfl (ne_attributes_of_mem_keyed h)
  | params | metrics | tags => exact KeySet.ascending _

theorem contains_eq_false {hidden : HiddenKeys} {c : Category} {k : String} :
    hidden.contains c k = false ↔ k ∉ hidden.get c := by
  rw [← Bool.not_eq_true, HiddenKeys.contains, KeySet.contains_iff]

theorem ascending_keys (runs : List Run) (hidden : HiddenKeys) {c : Category}
    (h : c ∈ Category.keyed) : (keys runs hidden c).Pairwise (· < ·) :=
  (ascending_columnKeys runs h).filter _

theorem mem_keys {runs : List Run} {hidden : HiddenKeys} {c : Category} (h : c ∈ Category.keyed)
    {k : String} :
    k ∈ keys runs hidden c ↔ (∃ r ∈ runs, k ∈ (r.cells c).keys) ∧ k ∉ hidden.get c := by
  rw [keys, List.mem_filter, mem_columnKeys (ne_attributes_of_mem_keyed h), Bool.not_eq_true',
    contains_eq_false]

theorem mem_attributes {hidden : HiddenKeys} {a : Attribute} :
    a ∈ attributes hidden ↔ a.label ∉ hidden.attributes := by
  have hall : a ∈ Attribute.all := by cases a <;> simp [Attribute.all]
  rw [attributes, List.mem_filter, Bool.not_eq_true', contains_eq_false]
  exact and_iff_right hall

theorem attributes_eq (hidden : HiddenKeys) :
    attributes hidden = Attribute.all.filter fun a => a.label ∉ hidden.attributes := by
  refine List.filter_congr fun a _ => ?_
  rw [Bool.eq_iff_iff, Bool.not_eq_true', contains_eq_false, decide_eq_true_iff]
  exact Iff.rfl

/-! ## Records -/

theorem cellText_eq (r : Run) (c : Category) :
    r.cellText c = fun k =>
      match (r.cells c).get? k with
      | some v => v.render
      | none => "" := by
  funext k
  unfold Run.cellText
  cases (r.cells c).get? k <;> rfl

theorem length_row (runs : List Run) (hidden : HiddenKeys) (r : Run) :
    (row runs hidden r).length = (header runs hidden).length := by
  simp [row, header, List.length_flatMap]

theorem header_ne_nil {runs : List Run} {hidden : HiddenKeys} (h : LeavesColumn runs hidden) :
    header runs hidden ≠ [] := by
  rcases h with ⟨a, ha⟩ | ⟨c, hc, r, hr, k, hk, hhidden⟩
  · exact List.ne_nil_of_mem (List.mem_append_left _
      (List.mem_map_of_mem (mem_attributes.mpr ha)))
  · exact List.ne_nil_of_mem (List.mem_append_right _
      (List.mem_flatMap.mpr ⟨c, hc, (mem_keys hc).mpr ⟨⟨r, hr, hk⟩, hhidden⟩⟩))

/-- All records are as long as the header. -/
theorem length_of_mem_records {runs : List Run} {hidden : HiddenKeys} {fields : List String}
    (h : fields ∈ records runs hidden) : fields.length = (header runs hidden).length := by
  rcases List.mem_cons.mp h with rfl | h
  · rfl
  · obtain ⟨r, _, rfl⟩ := List.mem_map.mp h
    exact length_row runs hidden r

/-- A reader finds the sheet that was exported. -/
theorem read?_sheet {runs : List Run} {hidden : HiddenKeys} (h : LeavesColumn runs hidden) :
    Csv.read? (text runs hidden) = some (records runs hidden) := by
  refine Csv.read?_text fun fields hm he => header_ne_nil h ?_
  have hlength := length_of_mem_records hm
  rw [he] at hlength
  exact List.length_eq_zero_iff.mp hlength.symm

theorem isTable_records (runs : List Run) (hidden : HiddenKeys) :
    IsTable runs hidden (keys runs hidden) (records runs hidden) where
  ascending _ hc := ascending_keys runs hidden hc
  mem_keys _ hc _ := mem_keys hc
  length := by rw [records, List.length_cons, List.length_map]
  width := ⟨_, fun _ hm => length_of_mem_records hm⟩
  head := by simp [records, header, attributes_eq, Category.keyed, List.filter_map, Function.comp_def]
  body i r hr := by simp [records, row, attributes_eq, Category.keyed, cellText_eq, hr]

/-- **An exported sheet reads as the table.** Nothing that names and values may
hold, and no empty field, moves a cell to another place. -/
theorem text_reads_as_table (runs : List Run) (hidden : HiddenKeys)
    (h : LeavesColumn runs hidden) :
    ∃ keys found, Csv.read? (text runs hidden) = some found ∧ IsTable runs hidden keys found :=
  ⟨_, _, read?_sheet h, isTable_records runs hidden⟩

/-- A single column, whose name needs quotes, and an empty line for the run
that lacks it. -/
theorem text_reads_as_table_one_column :
    let key := "a,\"b\n"
    let bare : Run :=
      ⟨"", none, 0, none, "", "", "", .running, .active, .empty, .empty, .empty⟩
    let runs := [{ bare with params := KeyMap.empty.insert key (.text "\r\n") }, bare]
    let hidden := HiddenKeys.none.set .attributes (.ofList (Attribute.all.map Attribute.label))
    LeavesColumn runs hidden ∧
      ∃ keys found, Csv.read? (text runs hidden) = some found ∧
        IsTable runs hidden keys found := by
  intro key bare runs hidden
  have left : LeavesColumn runs hidden := by
    refine Or.inr ⟨.params, by simp [Category.keyed], _, List.mem_cons_self, key, ?_, ?_⟩
    · exact KeyMap.mem_keys.mpr (by simp [Run.cells])
    · exact KeySet.not_mem_empty
  exact ⟨left, text_reads_as_table runs hidden left⟩

end RunTable.Sheet
