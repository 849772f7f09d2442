import RunTable.Json.Record
import RunTable.Run.Codec
import RunTable.View.State

/-!
View states as JSON. Whatever is missing is as in a table that was never touched, except that a
sort order needs both its parts. Encoded states have all their fields, in one order.
-/

namespace RunTable

open Json

def HiddenKeys.ofDocument? (depth : Nat) (d : Document) : Option HiddenKeys := do
  let (depth, field) ← d.record? depth (Category.all.map Category.name)
  let attributes ← given? field "attributes" .empty (Document.keySet? depth)
  let params ← given? field "params" .empty (Document.keySet? depth)
  let metrics ← given? field "metrics" .empty (Document.keySet? depth)
  let tags ← given? field "tags" .empty (Document.keySet? depth)
  some ⟨attributes, params, metrics, tags⟩

def HiddenKeys.toDocument (h : HiddenKeys) : Document :=
  .record (Category.all.map fun c => (c.name, keySetDocument (h.get c)))

def DiffSwitch.ofDocument? (depth : Nat) (d : Document) : Option DiffSwitch := do
  let (depth, field) ← d.record? depth
    ["unchecked_keys", "diff_switch_selected", "pre_switch_unchecked_keys",
      "post_switch_unchecked_keys"]
  let hidden ← given? field "unchecked_keys" .none (HiddenKeys.ofDocument? depth)
  let isOn ← given? field "diff_switch_selected" false Document.bool?
  let whileOff ← given? field "pre_switch_unchecked_keys" .none (HiddenKeys.ofDocument? depth)
  let whileOn ← given? field "post_switch_unchecked_keys" .none (HiddenKeys.ofDocument? depth)
  some ⟨hidden, isOn, whileOff, whileOn⟩

def DiffSwitch.toDocument (s : DiffSwitch) : Document :=
  .record [
    ("unchecked_keys", s.hidden.toDocument),
    ("diff_switch_selected", .bool s.isOn),
    ("pre_switch_unchecked_keys", s.whileOff.toDocument),
    ("post_switch_unchecked_keys", s.whileOn.toDocument)]

/-- The attributes by their names in stored data. -/
def Attribute.byIdentifier : List (String × Attribute) := all.map fun a => (a.identifier, a)

/-- The column to sort by of a document. -/
def SortKey.ofDocument? (depth : Nat) (d : Document) : Option SortKey := do
  let (name, content) ← d.variant? depth
  let (depth, content) ← content
  match name with
  | "Attribute" => (content.choice? depth Attribute.byIdentifier).map .attribute
  | "Param" => content.string?.map .param
  | "Metric" => content.string?.map .metric
  | "Tag" => content.string?.map .tag
  | _ => none

/-- The document of a column to sort by. -/
def SortKey.toDocument : SortKey → Document
  | .attribute a => .record [("Attribute", .text a.identifier)]
  | .param key => .record [("Param", .text key)]
  | .metric key => .record [("Metric", .text key)]
  | .tag key => .record [("Tag", .text key)]

def SortSpec.ofDocument? (depth : Nat) (d : Document) : Option SortSpec := do
  let (depth, field) ← d.record? depth ["key", "ascending"]
  let key ← required? field "key" (SortKey.ofDocument? depth)
  let ascending ← required? field "ascending" Document.bool?
  some ⟨key, ascending⟩

def SortSpec.toDocument (s : SortSpec) : Document :=
  .record [("key", s.key.toDocument), ("ascending", .bool s.ascending)]

def KeyFilter.ofDocument? (d : Document) : Option KeyFilter := d.string?.map KeyFilter.mk

def KeyFilter.toDocument (f : KeyFilter) : Document := .text f.raw

def ViewState.ofDocument? (depth : Nat) (d : Document) : Option ViewState := do
  let (depth, field) ← d.record? depth
    ["persisted", "search_input", "param_key_filter", "metric_key_filter", "lifecycle_filter",
      "sort", "layout"]
  let columns ← given? field "persisted" .initial (DiffSwitch.ofDocument? depth)
  let search ← given? field "search_input" "" Document.string?
  let paramFilter ← given? field "param_key_filter" .all KeyFilter.ofDocument?
  let metricFilter ← given? field "metric_key_filter" .all KeyFilter.ofDocument?
  let stage ← given? field "lifecycle_filter" .active (Document.choice? depth LifecycleStage.byName)
  let sort ← given? field "sort" .initial (SortSpec.ofDocument? depth)
  let layout ← given? field "layout" .compact (Document.choice? depth ColumnLayout.byName)
  some ⟨columns, search, paramFilter, metricFilter, stage, sort, layout⟩

def ViewState.toDocument (s : ViewState) : Document :=
  .record [
    ("persisted", s.columns.toDocument),
    ("search_input", .text s.search),
    ("param_key_filter", s.paramFilter.toDocument),
    ("metric_key_filter", s.metricFilter.toDocument),
    ("lifecycle_filter", .text s.stage.name),
    ("sort", s.sort.toDocument),
    ("layout", .text s.layout.name)]

def ViewState.read? (s : String) : Option ViewState :=
  (Document.read? s).bind (ViewState.ofDocument? nestingLimit)

def ViewState.write (s : ViewState) : String := s.toDocument.write

end RunTable
