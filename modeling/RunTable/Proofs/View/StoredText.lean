import RunTable.Proofs.Json.Written
import RunTable.View.Codec

/-! # The text of a view state

A state is stored as the text of its document. Each part of the document is
decoded to what it was made from, from the sets of hidden keys up to the whole
state, and no part is nested more than four levels deep; so every state reads
back (`ViewState.read?_write`). Reading is more lenient than writing, but what
was read is written in the one form from then on. -/

namespace RunTable

open Json

/-! ## Decoding what was encoded -/

theorem HiddenKeys.ofDocument?_toDocument (depth : Nat) (h : HiddenKeys) :
    ofDocument? (depth + 2) h.toDocument = some h := by
  simp [ofDocument?, toDocument, Document.record?_record, given?, Category.all,
    Category.name, get, Document.keySet?_keySetDocument]

theorem DiffSwitch.ofDocument?_toDocument (depth : Nat) (s : DiffSwitch) :
    ofDocument? (depth + 3) s.toDocument = some s := by
  simp [ofDocument?, toDocument, Document.record?_record, given?,
    HiddenKeys.ofDocument?_toDocument]

theorem SortKey.ofDocument?_toDocument (depth : Nat) (k : SortKey) :
    ofDocument? (depth + 1) k.toDocument = some k := by
  match k with
  | .attribute a =>
    have ha : valueAt a.identifier Attribute.byIdentifier = some a := by cases a <;> rfl
    simp [ofDocument?, toDocument, Document.variant?_record, Document.choice?_text, ha]
  | .param _ | .metric _ | .tag _ => rfl

theorem SortSpec.ofDocument?_toDocument (depth : Nat) (s : SortSpec) :
    ofDocument? (depth + 2) s.toDocument = some s := by
  simp [ofDocument?, toDocument, Document.record?_record, required?,
    SortKey.ofDocument?_toDocument]

theorem ViewState.ofDocument?_toDocument (depth : Nat) (s : ViewState) :
    ofDocument? (depth + 4) s.toDocument = some s := by
  have hstage : valueAt s.stage.name LifecycleStage.byName = some s.stage := by
    cases s.stage <;> rfl
  have hlayout : valueAt s.layout.name ColumnLayout.byName = some s.layout := by
    cases s.layout <;> rfl
  simp [ofDocument?, toDocument, Document.record?_record, given?,
    KeyFilter.ofDocument?, KeyFilter.toDocument, Document.choice?_text, hstage, hlayout,
    DiffSwitch.ofDocument?_toDocument, SortSpec.ofDocument?_toDocument]

/-! ## Writing and reading -/

theorem HiddenKeys.proper_toDocument (h : HiddenKeys) : h.toDocument.Proper := by
  refine Document.proper_record fun m hm => ?_
  obtain ⟨c, _, rfl⟩ := List.mem_map.mp hm
  exact Document.proper_texts _

theorem DiffSwitch.proper_toDocument (s : DiffSwitch) : s.toDocument.Proper := by
  apply Document.proper_record
  simp [HiddenKeys.proper_toDocument, Document.proper_bool]

theorem SortKey.proper_toDocument (k : SortKey) : k.toDocument.Proper := by
  cases k <;>
  · apply Document.proper_record
    simp [Document.proper_text]

theorem SortSpec.proper_toDocument (s : SortSpec) : s.toDocument.Proper := by
  apply Document.proper_record
  simp [SortKey.proper_toDocument, Document.proper_bool]

namespace ViewState

theorem proper_toDocument (s : ViewState) : s.toDocument.Proper := by
  apply Document.proper_record
  simp [DiffSwitch.proper_toDocument, KeyFilter.toDocument, SortSpec.proper_toDocument,
    Document.proper_text]

/-- A stored state reads back. -/
theorem read?_write (s : ViewState) : read? s.write = some s := by
  have hdocument : Document.read? s.write = some s.toDocument :=
    Document.read?_write s.proper_toDocument
  rw [read?, hdocument, Option.bind_some]
  exact ofDocument?_toDocument 123 s

/-- **Stored states come back, and reading settles.** Whatever the strings and
sets of a state hold, its text reads back as the state. A text that was not
written here may leave out fields, reorder them and add others; the text that
is stored in its place spells the same state, and stays what it is when it is
read and written again. -/
theorem reads_back_and_settles :
    (∀ s : ViewState, read? s.write = some s) ∧
    ∀ text stored : String, (read? text).map write = some stored →
      read? stored = read? text ∧ (read? stored).map write = some stored := by
  refine ⟨read?_write, fun text stored h => ?_⟩
  obtain ⟨s, hs, rfl⟩ := Option.map_eq_some_iff.mp h
  rw [hs, read?_write]
  exact ⟨rfl, rfl⟩

/-- A text with few fields, one that nobody asked for, records as arrays, and a
set with a repeated name and an escape. -/
theorem reads_back_and_settles_lenient :
    let text := "\x7b\"layout\":\"grid\",\"more\":[null],\"persisted\":" ++
      "[[[\"b\",\"\\u0000\\\"\",\"b\"]],true]\x7d"
    let hidden := HiddenKeys.none.set .attributes (.ofList ["b", "\x00\""])
    let s : ViewState :=
      { ViewState.initial with columns := ⟨hidden, true, .none, .none⟩, layout := .grid }
    (read? text).map write = some s.write ∧ read? text = some s ∧
      read? s.write = read? text ∧ (read? s.write).map write = some s.write := by
  intro text hidden s
  have hread : read? text = some s := by decide +kernel
  have hstored : (read? text).map write = some s.write := by rw [hread, Option.map_some]
  exact ⟨hstored, hread, reads_back_and_settles.2 text s.write hstored⟩

end ViewState

end RunTable
