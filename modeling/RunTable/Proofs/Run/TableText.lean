import RunTable.Proofs.Json.ValueText
import RunTable.Run.Codec

/-! # The text of a table

A table is written as an array of its runs, each with all its fields. A run
comes back from its document with every cell as it was, if the floating-point
numbers in its cells read back. Encoding adds three levels of nesting around
the cells, the same that decoding takes off; so a table that was read can be
written and read again. -/

namespace RunTable

open Json

/-! ## Fields -/

theorem int64?_int64Document (n : Int64) : (int64Document n).int64? = some n := by
  have hlower : -(signedLimit : Int) ≤ n.toInt := n.le_toInt
  have hupper : n.toInt < signedLimit := n.toInt_lt
  have hword : n.toInt < wordLimit := Int.lt_trans hupper (by decide)
  have hinteger : Value.integer? (Numeral.ofInt n.toInt) = some ⟨n.toInt, hlower, hword⟩ := by
    rw [Value.integer?_ofInt]
    exact dif_pos ⟨hlower, hword⟩
  simp only [int64Document, Document.int64?, hinteger]
  rw [if_pos hupper, Int64.ofInt_toInt]

theorem optional?_text (s : Option String) :
    Document.optional? Document.string? (s.elim .null .text) = some s := by
  cases s <;> rfl

theorem optional?_int64Document (n : Option Int64) :
    Document.optional? Document.int64? (n.elim .null int64Document) = some n := by
  cases n with
  | none => rfl
  | some n =>
    show (int64Document n).int64?.map some = _
    rw [int64?_int64Document, Option.map_some]

theorem proper_int64Document (n : Int64) : (int64Document n).Proper :=
  Document.proper_number (Numeral.proper_ofInt n.toInt)

namespace Run

/-! ## Runs -/

/-- The floating-point numbers in the cells of a run. -/
def doubles (r : Run) : List Double :=
  (r.params.toList ++ r.metrics.toList ++ r.tags.toList).flatMap fun e => e.2.value.doubles

theorem proper_toDocument (r : Run) : r.toDocument.Proper := by
  have hname : (r.name.elim .null .text : Document).Proper := by
    cases r.name with
    | none => exact Document.proper_null
    | some s => exact Document.proper_text s
  have hend : (r.endTime.elim .null int64Document : Document).Proper := by
    cases r.endTime with
    | none => exact Document.proper_null
    | some n => exact proper_int64Document n
  apply Document.proper_record
  simp [hname, hend, Document.proper_text, proper_int64Document, proper_cellMapDocument]

/-- Only the cells of a run can be nested deeply. -/
theorem levels_toDocument_le {r : Run} {n : Nat} :
    r.toDocument.levels ≤ n + 1 ↔ (cellMapDocument r.params).levels ≤ n ∧
      (cellMapDocument r.metrics).levels ≤ n ∧ (cellMapDocument r.tags).levels ≤ n := by
  have htext (s : String) : (Document.text s).levels = 0 := rfl
  have hint (n : Int64) : (int64Document n).levels = 0 := rfl
  have hname : (r.name.elim .null .text : Document).levels = 0 := by cases r.name <;> rfl
  have hend : (r.endTime.elim .null int64Document : Document).levels = 0 := by
    cases r.endTime <;> rfl
  rw [toDocument, Document.levels_record_le]
  simp [htext, hint, hname, hend]

/-- A run comes back from its document. -/
theorem ofDocument?_toDocument {r : Run} {depth : Nat}
    (hdoubles : ∀ d ∈ r.doubles, Value.ReadsBack d) (hlevels : r.toDocument.levels ≤ depth) :
    ofDocument? depth r.toDocument = some r := by
  cases depth with
  | zero => exact absurd hlevels (Nat.not_succ_le_zero _)
  | succ k =>
    obtain ⟨hparams, hmetrics, htags⟩ := levels_toDocument_le.mp hlevels
    have hcells : ∀ e ∈ r.params.toList ++ r.metrics.toList ++ r.tags.toList,
        ∀ d ∈ e.2.value.doubles, Value.ReadsBack d :=
      fun e he d hd => hdoubles d (List.mem_flatMap.mpr ⟨e, he, hd⟩)
    rw [List.forall_mem_append, List.forall_mem_append] at hcells
    have hstatus : valueAt r.status.name RunStatus.byName = some r.status := by
      cases r.status <;> rfl
    have hstage : valueAt r.stage.name LifecycleStage.byName = some r.stage := by
      cases r.stage <;> rfl
    simp [ofDocument?, toDocument, Document.record?_record, required?, given?,
      optional?_text, int64?_int64Document, optional?_int64Document, Document.choice?_text, hstatus,
      hstage, cellMap?_cellMapDocument hcells.1.1 hparams,
      cellMap?_cellMapDocument hcells.1.2 hmetrics, cellMap?_cellMapDocument hcells.2 htags]

theorem levels_of_given? {field : String → Option Document} {name : String} {k : Nat}
    {m : KeyMap Cell}
    (h : given? field name .empty (Document.cellMap? (k + 1)) = some m) :
    (cellMapDocument m).levels ≤ k + 1 := by
  unfold given? at h
  split at h
  · cases h
    exact Nat.le_add_left 1 k
  · exact levels_of_cellMap? h

/-- A run has no more levels than were granted for reading it, two at least:
one for its fields and one for its cells. -/
theorem levels_of_ofDocument? {k : Nat} {d : Document} {r : Run}
    (h : ofDocument? (k + 2) d = some r) : r.toDocument.levels ≤ k + 2 := by
  unfold ofDocument? at h
  obtain ⟨⟨depth, field⟩, hrecord, h⟩ := Option.bind_eq_some_iff.mp h
  have hdepth : depth = k + 1 := by
    rw [Document.record?, if_neg (Nat.succ_ne_zero _)] at hrecord
    obtain ⟨_, _, he⟩ := Option.map_eq_some_iff.mp hrecord
    exact (congrArg Prod.fst he).symm
  subst hdepth
  -- Nine fields come before those that hold cells.
  iterate 9 obtain ⟨_, _, h⟩ := Option.bind_eq_some_iff.mp h
  obtain ⟨params, hparams, h⟩ := Option.bind_eq_some_iff.mp h
  obtain ⟨metrics, hmetrics, h⟩ := Option.bind_eq_some_iff.mp h
  obtain ⟨tags, htags, h⟩ := Option.bind_eq_some_iff.mp h
  cases h
  rw [levels_toDocument_le]
  exact ⟨levels_of_given? hparams, levels_of_given? hmetrics, levels_of_given? htags⟩

/-! ## Tables -/

/-- The levels of nesting in the text of a table. -/
def listLevels (runs : List Run) : Nat := (Document.array (runs.map toDocument)).levels

theorem listLevels_le {runs : List Run} {n : Nat} :
    listLevels runs ≤ n + 1 ↔ ∀ r ∈ runs, r.toDocument.levels ≤ n := by
  rw [listLevels, Document.levels_array_le, List.forall_mem_map]

/-- A table that is nested no deeper than may be reads back. -/
theorem readList?_writeList {runs : List Run} (hlevels : listLevels runs ≤ nestingLimit)
    (hdoubles : ∀ r ∈ runs, ∀ d ∈ r.doubles, Value.ReadsBack d) :
    readList? (writeList runs) = some runs := by
  have hproper : (Document.array (runs.map toDocument)).Proper := by
    apply Document.proper_array
    rw [List.forall_mem_map]
    exact fun r _ => proper_toDocument r
  have hdocument : Document.read? (writeList runs) = some (.array (runs.map toDocument)) :=
    Document.read?_write hproper
  rw [readList?, hdocument, Option.bind_some]
  exact Document.list?_array fun r hr =>
    ofDocument?_toDocument (hdoubles r hr) (listLevels_le.mp hlevels r hr)

/-- A table that was read is nested no deeper than may be. -/
theorem listLevels_of_readList? {text : String} {runs : List Run}
    (h : readList? text = some runs) : listLevels runs ≤ nestingLimit := by
  obtain ⟨d, _, hd⟩ := Option.bind_eq_some_iff.mp h
  unfold listOfDocument? Document.list? at hd
  split at hd
  · refine listLevels_le.mpr fun r hr => ?_
    obtain ⟨d, _, hdecode⟩ := Document.exists_of_mem_mapM hd r hr
    exact levels_of_ofDocument? hdecode
  · cases hd

end Run

/-- The texts of numbers of different kinds differ, even if the numbers are the same. -/
theorem Json.Value.write_integer_ne_write_double (n : WideInt) (d : Double) :
    (Value.integer n).write ≠ (Value.double d).write := by
  intro he
  have hinteger : Document.read? (Value.integer n).write = some (.number (.ofInt n.val)) :=
    Document.read?_write (Value.proper_toDocument (.integer n))
  have hdouble : Document.read? (Value.double d).write = some (.number (.ofDouble d)) :=
    Document.read?_write (Value.proper_toDocument (.double d))
  rw [he, hdouble] at hinteger
  have hnumeral : Numeral.ofDouble d = Numeral.ofInt n.val :=
    Document.number.inj (Option.some.inj hinteger)
  have hfraction := Numeral.fraction_ne_nil_or_exponent_ne_none d
  rw [hnumeral] at hfraction
  rcases hfraction with h | h
  · exact h rfl
  · exact h rfl

namespace Run

/-- **A table comes back from its text.** This holds if the text is not nested
too deeply, which no table is that was read from a text, and if the
floating-point numbers in its cells read back. So a table that was read from
any text and is written has a text that spells the same runs, and is the same
if the runs are written again. An integer and a floating-point number never
have the same text. -/
theorem list_reads_back :
    (∀ runs : List Run, listLevels runs ≤ nestingLimit →
      (∀ r ∈ runs, ∀ d ∈ r.doubles, Value.ReadsBack d) →
      readList? (writeList runs) = some runs) ∧
    (∀ (text : String) (runs : List Run), readList? text = some runs →
      listLevels runs ≤ nestingLimit ∧
      ((∀ r ∈ runs, ∀ d ∈ r.doubles, Value.ReadsBack d) →
        readList? (writeList runs) = readList? text ∧
        (readList? (writeList runs)).map writeList = some (writeList runs))) ∧
    ∀ (n : WideInt) (d : Double), (Value.integer n).write ≠ (Value.double d).write := by
  refine ⟨fun runs => readList?_writeList, fun text runs h => ?_,
    Value.write_integer_ne_write_double⟩
  have hlevels := listLevels_of_readList? h
  refine ⟨hlevels, fun hdoubles => ?_⟩
  rw [h, readList?_writeList hlevels hdoubles]
  exact ⟨rfl, rfl⟩

/-- A run with the smallest start, and a cell with both kinds of numbers under
a name that needs escapes. -/
theorem list_reads_back_numbers :
    let text := "[\x7b\"start_time\":-9223372036854775808,\"run_id\":\"a\",\"more\":[]," ++
      "\"metrics\":\x7b\"\\\"\\n\":0,\"\\u0022\\n\":[5e-324,0,0.0]\x7d\x7d]"
    let smallest : Double := ⟨false, 1, by decide⟩
    let cell : Cell :=
      ⟨.array [.double smallest, .integer ⟨0, by decide, by decide⟩, .double .zero],
        by simp [Value.Canonical, Value.CanonicalItems]⟩
    let runs : List Run := [⟨"a", none, -9223372036854775808, none, "", "", "", .running, .active,
      .empty, KeyMap.empty.insert "\"\n" cell, .empty⟩]
    readList? text = some runs ∧ listLevels runs ≤ nestingLimit ∧
      (∀ r ∈ runs, ∀ d ∈ r.doubles, Value.ReadsBack d) ∧
      readList? (writeList runs) = some runs ∧
      (readList? (writeList runs)).map writeList = some (writeList runs) := by
  intro text smallest cell runs
  have hread : readList? text = some runs := by decide +kernel
  have hdoubles : ∀ r ∈ runs, ∀ d ∈ r.doubles, Value.ReadsBack d := by decide +kernel
  obtain ⟨hback, hspells, _⟩ := list_reads_back
  obtain ⟨hlevels, hagain⟩ := hspells text runs hread
  exact ⟨hread, hlevels, hdoubles, hback runs hlevels hdoubles, (hagain hdoubles).2⟩

/-- Not all numbers read back. -/
example : ¬ Value.ReadsBack ⟨false, 4503599633370514, by decide⟩ := by decide +kernel

end Run

end RunTable
