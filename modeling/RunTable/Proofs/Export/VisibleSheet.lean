import RunTable.Proofs.Command.SingleWrite
import RunTable.Proofs.Export.SheetReading

/-! # An exported sheet shows the visible columns

Which columns show is worked out in three ways: by the filters and the hidden
keys, by all keys that are to be left out, and by the sheet itself, which knows
only the latter. A column of the shown runs is left out just if it fails the
filter of its category or is hidden, even if more runs took part in working out
what to leave out (`ViewState.mem_invisibleKeys_of_column`); so all three agree
on every table. -/

namespace RunTable

/-- What a run shows in a column. -/
def Run.shownText (r : Run) : Category → String → String
  | .attributes, label => (Attribute.all.find? (·.label = label)).elim "" (·.cellText r)
  | c, key => r.cellText c key

theorem Run.shownText_label (r : Run) (a : Attribute) :
    r.shownText .attributes a.label = a.cellText r := by
  have hfind : Attribute.all.find? (·.label = a.label) = some a := by cases a <;> rfl
  rw [shownText, hfind]
  rfl

theorem columnKeys_subset {shown more : List Run} (h : shown ⊆ more) (c : Category) :
    columnKeys shown c ⊆ columnKeys more c := by
  intro k hk
  by_cases hc : c = .attributes
  · subst hc
    exact hk
  · obtain ⟨r, hr, hrk⟩ := (mem_columnKeys hc).mp hk
    exact (mem_columnKeys hc).mpr ⟨r, h hr, hrk⟩

namespace ViewState

variable {s : ViewState} {runs shown more : List Run} {c : Category} {k : String}

/-- The visible column names of a table, category after category. -/
def visibleHeader (s : ViewState) (runs : List Run) : List String :=
  Category.all.flatMap (s.visibleKeys runs)

/-- What a run shows in the visible columns. -/
def visibleRow (s : ViewState) (runs : List Run) (r : Run) : List String :=
  Category.all.flatMap fun c => (s.visibleKeys runs c).map (r.shownText c)

theorem mem_visibleKeys :
    k ∈ s.visibleKeys runs c ↔
      k ∈ columnKeys runs c ∧ s.passes c k = true ∧ k ∉ s.columns.hidden.get c := by
  rw [visibleKeys, List.mem_filter, Bool.and_eq_true, Bool.not_eq_true', Sheet.contains_eq_false]

theorem mem_invisibleKeys :
    k ∈ (s.invisibleKeys runs).get c ↔
      k ∈ s.columns.hidden.get c ∨ k ∈ columnKeys runs c ∧ k ∉ s.visibleKeys runs c := by
  rw [invisibleKeys, HiddenKeys.get_ofCategories, KeySet.mem_insertAll, List.mem_filter]
  simp

/-- A column is left out just if it does not pass or is hidden. -/
theorem mem_invisibleKeys_of_column (h : k ∈ columnKeys runs c) :
    k ∈ (s.invisibleKeys runs).get c ↔
      ¬(s.passes c k = true ∧ k ∉ s.columns.hidden.get c) := by
  rw [mem_invisibleKeys, mem_visibleKeys]
  by_cases hidden : k ∈ s.columns.hidden.get c
  · simp [hidden]
  · simp [h, hidden]

/-- What is left of the columns is what is visible, even if more runs were
looked at. -/
theorem filter_invisibleKeys (h : shown ⊆ more) (s : ViewState) (c : Category) :
    ((columnKeys shown c).filter fun k => !(s.invisibleKeys more).contains c k) =
      s.visibleKeys shown c := by
  refine List.filter_congr fun k hk => ?_
  have hmore := mem_invisibleKeys_of_column (s := s) (columnKeys_subset h c hk)
  rw [Bool.eq_iff_iff, Bool.and_eq_true, Bool.not_eq_true', Bool.not_eq_true',
    Sheet.contains_eq_false, Sheet.contains_eq_false, hmore, Classical.not_not]

end ViewState

namespace Sheet

variable {shown more : List Run}

theorem label_attributes (runs : List Run) (hidden : HiddenKeys) :
    (attributes hidden).map Attribute.label =
      (columnKeys runs .attributes).filter fun k => !hidden.contains .attributes k := by
  rw [columnKeys, List.filter_map]
  rfl

/-- The sheet of a table has its visible columns. -/
theorem header_invisibleKeys (h : shown ⊆ more) (s : ViewState) :
    header shown (s.invisibleKeys more) = s.visibleHeader shown := by
  have hkeys : keys shown (s.invisibleKeys more) = s.visibleKeys shown :=
    funext (ViewState.filter_invisibleKeys h s)
  rw [header, label_attributes shown, ViewState.filter_invisibleKeys h, hkeys]
  rfl

theorem row_invisibleKeys (h : shown ⊆ more) (s : ViewState) (r : Run) :
    row shown (s.invisibleKeys more) r = s.visibleRow shown r := by
  have hkeys : keys shown (s.invisibleKeys more) = s.visibleKeys shown :=
    funext (ViewState.filter_invisibleKeys h s)
  have hattributes : (attributes (s.invisibleKeys more)).map (·.cellText r) =
      (s.visibleKeys shown .attributes).map (r.shownText .attributes) := by
    rw [← ViewState.filter_invisibleKeys h, ← label_attributes, List.map_map]
    exact List.map_congr_left fun a _ => (r.shownText_label a).symm
  rw [row, hattributes, hkeys]
  rfl

theorem records_invisibleKeys (h : shown ⊆ more) (s : ViewState) :
    records shown (s.invisibleKeys more) =
      s.visibleHeader shown :: shown.map (s.visibleRow shown) := by
  rw [records, header_invisibleKeys h]
  congr 1
  exact List.map_congr_left fun r _ => row_invisibleKeys h s r

end Sheet

/-- A file that spells runs. -/
theorem Command.runsAt_of_text {look : String → Found} {path s : String} {runs : List Run}
    (hlook : look path = .text s) (hread : Run.readList? s = some runs) :
    runsAt look path = .ok runs := by
  rw [runsAt, hlook]
  dsimp only
  rw [hread]

/-- **The sheet shows what is visible.** In every category a column is visible
or left out and not both, every hidden key is left out, and the visible columns
keep their order. So the sheet of any runs has the visible columns as its
header, and a record of each run under them in the order of the runs, even if
what is left out was worked out from more runs; this is what the command prints
for the visible runs, and what a reader finds. -/
theorem ViewState.sheet_shows_visible (s : ViewState) :
    (∀ runs c, (s.visibleKeys runs c).Sublist (columnKeys runs c) ∧
      (∀ k ∈ columnKeys runs c, k ∈ s.visibleKeys runs c ↔ k ∉ (s.invisibleKeys runs).get c) ∧
      ∀ k ∈ s.columns.hidden.get c, k ∈ (s.invisibleKeys runs).get c) ∧
    (∀ shown more, shown ⊆ more →
      Sheet.text shown (s.invisibleKeys more) =
        Csv.text (s.visibleHeader shown :: shown.map (s.visibleRow shown))) ∧
    (∀ around format named experiment path runs c,
      Command.runsAt around.look path = .ok runs →
      around.connect (named.elim around.location .named) = .ok c →
      Command.loadState c.database experiment = .ok s →
      let shown := s.visibleRuns runs
      ((Command.TableCommand.sheet experiment path).run around format named).result =
        .ok (Csv.text (s.visibleHeader shown :: shown.map (s.visibleRow shown)))) ∧
    ∀ shown, s.visibleHeader shown ≠ [] →
      let records := s.visibleHeader shown :: shown.map (s.visibleRow shown)
      Csv.read? (Csv.text records) = some records := by
  refine ⟨fun runs c => ⟨List.filter_sublist, ?_, ?_⟩, ?_, ?_, ?_⟩
  · intro k hk
    rw [mem_invisibleKeys_of_column hk, mem_visibleKeys, Classical.not_not]
    exact and_iff_right hk
  · intro k hk
    exact mem_invisibleKeys.mpr (Or.inl hk)
  · intro shown more h
    rw [Sheet.text, Sheet.records_invisibleKeys h]
  · intro around format named experiment path runs c hruns hconnect hload shown
    have hsheet : Command.sheetText runs s =
        Csv.text (s.visibleHeader shown :: shown.map (s.visibleRow shown)) := by
      rw [Command.sheetText, Sheet.text, Sheet.records_invisibleKeys (List.Subset.refl _)]
    rw [← hsheet]
    simp [Command.TableCommand.run, hruns, Command.Surroundings.withDatabase, hconnect, hload,
      Except.map]
  · intro shown hshown records
    have hrecords : Sheet.records shown (s.invisibleKeys shown) = records :=
      Sheet.records_invisibleKeys (List.Subset.refl _) s
    refine Csv.read?_text fun fields hm hnil => hshown ?_
    rw [← hrecords] at hm
    have hlength := Sheet.length_of_mem_records hm
    rw [hnil, Sheet.header_invisibleKeys (List.Subset.refl _)] at hlength
    exact List.length_eq_zero_iff.mp hlength.symm

/-- A filter on the params, a tag that is hidden, and a run that is not shown
and has a column of its own: the sheet is one record under the header. -/
theorem ViewState.sheet_shows_visible_filtered :
    let s : ViewState := { ViewState.initial with
      columns := DiffSwitch.initial.setHidden .tags (.ofList ["team"]), paramFilter := ⟨"R"⟩ }
    let bare : Run :=
      ⟨"", none, 0, none, "", "", "", .running, .active, .empty, .empty, .empty⟩
    let run := { bare with
      id := "b", name := some "n", startTime := 1000, endTime := some 2500,
      params := (KeyMap.empty.insert "lr" (.text "1")).insert "seed" (.text "7"),
      tags := (KeyMap.empty.insert "note" (.text "y, z")).insert "team" (.text "x") }
    let other := { bare with
      stage := .deleted, params := KeyMap.empty.insert "rank" (.text "2") }
    let file := "[\x7b\"run_id\":\"b\",\"name\":\"n\",\"start_time\":1000,\"end_time\":2500," ++
      "\"params\":\x7b\"lr\":\"1\",\"seed\":\"7\"\x7d," ++
      "\"tags\":\x7b\"note\":\"y, z\",\"team\":\"x\"\x7d\x7d," ++
      "\x7b\"run_id\":\"\",\"start_time\":0," ++
      "\"lifecycle_stage\":\"deleted\",\"params\":\x7b\"rank\":\"2\"\x7d\x7d]"
    let c : Command.Connection := ⟨Database.empty.put "a" 3 s, false, fun _ => .missing⟩
    let around : Command.Surroundings := ⟨fun _ => .text file, fun _ => .ok c, .named "", 7⟩
    let shown := s.visibleRuns [run, other]
    let records := s.visibleHeader shown :: shown.map (s.visibleRow shown)
    shown = [run] ∧
      records = [
        ["Start Time", "Duration", "Run ID", "Name", "Source Type", "Source Name", "User",
          "Status", "lr", "note"],
        ["1970-01-01 00:00:01", "1.5s", "b", "n", "", "", "", "RUNNING", "1", "y, z"]] ∧
      Sheet.text shown (s.invisibleKeys [run, other]) = Csv.text records ∧
      ((Command.TableCommand.sheet "a" "runs.json").run around .human none).result =
        .ok (Csv.text records) ∧
      Csv.text records =
        "Start Time,Duration,Run ID,Name,Source Type,Source Name,User,Status,lr,note\n" ++
        "1970-01-01 00:00:01,1.5s,b,n,,,,RUNNING,1,\"y, z\"\n" ∧
      Csv.read? (Csv.text records) = some records := by
  intro s bare run other file c around shown records
  have hshown : shown = [run] := by decide +kernel
  have hheader : s.visibleHeader [run] = ["Start Time", "Duration", "Run ID", "Name",
      "Source Type", "Source Name", "User", "Status", "lr", "note"] := by
    decide +kernel
  have hrow : s.visibleRow [run] run =
      ["1970-01-01 00:00:01", "1.5s", "b", "n", "", "", "", "RUNNING", "1", "y, z"] := by
    decide +kernel
  have hrecords : records = [s.visibleHeader [run], s.visibleRow [run] run] := by
    simp only [records, hshown]
    rfl
  rw [hheader, hrow] at hrecords
  have hfile : Run.readList? file = some [run, other] := by decide +kernel
  have hruns : Command.runsAt around.look "runs.json" = .ok [run, other] :=
    Command.runsAt_of_text rfl hfile
  have hload : Command.loadState c.database "a" = .ok s :=
    (Command.loadState_put .empty "a" 3 s "a").trans (if_pos rfl)
  have hsubset : shown ⊆ [run, other] := by
    rw [hshown]
    exact List.cons_subset_cons _ (List.nil_subset _)
  have hvisible : s.visibleHeader shown ≠ [] := by
    rw [hshown, hheader]
    exact List.cons_ne_nil _ _
  obtain ⟨_, htext, hprints, hreads⟩ := sheet_shows_visible s
  refine ⟨hshown, hrecords, htext shown _ hsubset, ?_, ?_, hreads shown hvisible⟩
  · exact hprints around .human none "a" "runs.json" _ c hruns rfl hload
  · rw [hrecords]
    decide +kernel

end RunTable
