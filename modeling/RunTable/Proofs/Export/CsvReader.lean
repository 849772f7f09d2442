import RunTable.Export.Csv

/-! # Reading records back

A reader of comma-separated text that takes one character after the other and
shares nothing with the writer. A line feed outside quotes ends the record, a
comma outside quotes ends the field, and within quotes a doubled quote stands
for one. A quote inside of a field that began without one, text behind a
closing quote, and quotes that are never closed are refused. The main
statement, `read?_text`, says that the reader accepts every text that is
written and gives back the records, whatever their fields hold, if each record
has a field: a record without one leaves an empty line, which is a record with
one empty field. -/

namespace RunTable.Csv

/-- Where a reader stands in a field. -/
inductive Place where
  | start
  | plain
  | quoted
  | afterQuote
  deriving DecidableEq

/-- What has been read: the complete records, the complete fields of the record
that is being read, and the characters of the field that is being read. -/
structure Reader where
  records : List (List (List Char))
  fields : List (List Char)
  field : List Char
  place : Place

namespace Reader

def initial : Reader := ⟨[], [], [], .start⟩

def endField (r : Reader) : Reader := ⟨r.records, r.fields ++ [r.field], [], .start⟩

def endRecord (r : Reader) : Reader := ⟨r.records ++ [r.fields ++ [r.field]], [], [], .start⟩

def add (r : Reader) (c : Char) (place : Place) : Reader :=
  ⟨r.records, r.fields, r.field ++ [c], place⟩

/-- What a character outside quotes ends, if it ends anything. -/
def stop? (r : Reader) (c : Char) : Option Reader :=
  if c = ',' then some r.endField else if c = '\n' then some r.endRecord else none

/-- Takes one character. -/
def step? (r : Reader) (c : Char) : Option Reader :=
  match r.place with
  | .start =>
    if c = '"' then some { r with place := .quoted } else (r.stop? c).or (some (r.add c .plain))
  | .plain => if c = '"' then none else (r.stop? c).or (some (r.add c .plain))
  | .quoted => if c = '"' then some { r with place := .afterQuote } else some (r.add c .quoted)
  | .afterQuote => if c = '"' then some (r.add c .quoted) else r.stop? c

def run? (r : Reader) (s : List Char) : Option Reader := s.foldlM step? r

/-- The records at the end of the text. The last record needs no line feed. -/
def finish? (r : Reader) : Option (List (List (List Char))) :=
  match r.place with
  | .quoted => none
  | .start => if r.fields = [] then some r.records else some r.endRecord.records
  | .plain | .afterQuote => some r.endRecord.records

end Reader

/-- The records of a text. -/
def read? (text : String) : Option (List (List String)) :=
  ((Reader.initial.run? text.toList).bind Reader.finish?).map fun records =>
    records.map fun fields => fields.map String.ofList

namespace Reader

@[simp] theorem run?_nil (r : Reader) : r.run? [] = some r := rfl

theorem run?_cons (r : Reader) (c : Char) (s : List Char) :
    r.run? (c :: s) = (r.step? c).bind (run? · s) := List.foldlM_cons

theorem run?_append (r : Reader) (s t : List Char) :
    r.run? (s ++ t) = (r.run? s).bind (run? · t) := List.foldlM_append

/-! ## One field -/

theorem step?_comma {r : Reader} (h : r.place ≠ .quoted) : r.step? ',' = some r.endField := by
  unfold step? stop?
  split <;> simp_all

theorem step?_lineFeed {r : Reader} (h : r.place ≠ .quoted) : r.step? '\n' = some r.endRecord := by
  unfold step? stop?
  split <;> simp_all

theorem step?_plain {r : Reader} (h : r.place = .start ∨ r.place = .plain) {c : Char}
    (hc : needsQuotes c = false) : r.step? c = some (r.add c .plain) := by
  simp only [needsQuotes, Bool.or_eq_false_iff, beq_eq_false_iff_ne] at hc
  obtain ⟨⟨⟨hcomma, hquote⟩, hfeed⟩, _⟩ := hc
  unfold step? stop?
  rcases h with h | h <;> simp [h, hcomma, hquote, hfeed]

theorem run?_plain (records : List (List (List Char))) (fields : List (List Char))
    (field s : List Char) (hs : ∀ c ∈ s, needsQuotes c = false) :
    run? ⟨records, fields, field, .plain⟩ s = some ⟨records, fields, field ++ s, .plain⟩ := by
  induction s generalizing field with
  | nil => simp
  | cons c s ih =>
    obtain ⟨hc, hs⟩ := List.forall_mem_cons.mp hs
    rw [run?_cons, step?_plain (Or.inr rfl) hc, Option.bind_some]
    show run? ⟨records, fields, field ++ [c], .plain⟩ s = _
    rw [ih _ hs, List.append_assoc, List.singleton_append]

/-- Within quotes every character is taken as it is, a doubled quote as one. -/
theorem run?_doubleQuotes (records : List (List (List Char))) (fields : List (List Char))
    (field s : List Char) :
    run? ⟨records, fields, field, .quoted⟩ (doubleQuotes s) =
      some ⟨records, fields, field ++ s, .quoted⟩ := by
  induction s generalizing field with
  | nil => simp [doubleQuotes]
  | cons c s ih =>
    have taken : run? ⟨records, fields, field ++ [c], .quoted⟩ (doubleQuotes s) =
        some ⟨records, fields, field ++ c :: s, .quoted⟩ := by
      rw [ih, List.append_assoc, List.singleton_append]
    by_cases hc : c = '"'
    · subst hc
      rw [doubleQuotes, if_pos rfl, run?_cons]
      show run? ⟨records, fields, field, .afterQuote⟩ ('"' :: doubleQuotes s) = _
      rw [run?_cons]
      exact taken
    · rw [doubleQuotes, if_neg hc, run?_cons]
      simpa [step?, hc, add] using taken

/-- A written field is read without ending it, and it may end where it does. -/
theorem run?_writeField (records : List (List (List Char))) (fields : List (List Char))
    (s : List Char) :
    ∃ place, place ≠ .quoted ∧
      run? ⟨records, fields, [], .start⟩ (writeField s) = some ⟨records, fields, s, place⟩ := by
  unfold writeField
  by_cases hs : s.any needsQuotes = true
  · -- The last quote may yet be the first of two, so the field is still open.
    rw [if_pos hs]
    refine ⟨.afterQuote, by decide, ?_⟩
    rw [List.cons_append, run?_cons]
    show run? ⟨records, fields, [], .quoted⟩ (doubleQuotes s ++ ['"']) = _
    rw [run?_append, run?_doubleQuotes]
    rfl
  · rw [if_neg hs]
    have hplain : ∀ c ∈ s, needsQuotes c = false := by simpa using hs
    cases s with
    | nil => exact ⟨.start, by decide, rfl⟩
    | cons c s =>
      obtain ⟨hc, hs⟩ := List.forall_mem_cons.mp hplain
      refine ⟨.plain, by decide, ?_⟩
      rw [run?_cons, step?_plain (Or.inl rfl) hc]
      exact run?_plain records fields [c] s hs

theorem run?_writeField_comma (records : List (List (List Char))) (fields : List (List Char))
    (s rest : List Char) :
    run? ⟨records, fields, [], .start⟩ (writeField s ++ ',' :: rest) =
      run? ⟨records, fields ++ [s], [], .start⟩ rest := by
  obtain ⟨place, hplace, hrun⟩ := run?_writeField records fields s
  rw [run?_append, hrun, Option.bind_some, run?_cons, step?_comma hplace]
  rfl

theorem run?_writeField_lineFeed (records : List (List (List Char))) (fields : List (List Char))
    (s : List Char) :
    run? ⟨records, fields, [], .start⟩ (writeField s ++ ['\n']) =
      some ⟨records ++ [fields ++ [s]], [], [], .start⟩ := by
  obtain ⟨place, hplace, hrun⟩ := run?_writeField records fields s
  rw [run?_append, hrun, Option.bind_some, run?_cons, step?_lineFeed hplace]
  rfl

/-! ## Records -/

theorem run?_writeFields (records : List (List (List Char))) (done : List (List Char))
    {fields : List (List Char)} (h : fields ≠ []) :
    run? ⟨records, done, [], .start⟩ (writeFields fields ++ ['\n']) =
      some ⟨records ++ [done ++ fields], [], [], .start⟩ := by
  induction fields using writeFields.induct generalizing done with
  | case1 => exact absurd rfl h
  | case2 field => exact run?_writeField_lineFeed records done field
  | case3 field rest hrest ih =>
    rw [writeFields.eq_3 field rest hrest, List.append_assoc, List.cons_append,
      run?_writeField_comma, ih _ hrest, List.append_assoc, List.singleton_append]

theorem run?_writeRecords (done : List (List (List Char))) {records : List (List (List Char))}
    (h : ∀ fields ∈ records, fields ≠ []) :
    run? ⟨done, [], [], .start⟩ (writeRecords records) =
      some ⟨done ++ records, [], [], .start⟩ := by
  induction records generalizing done with
  | nil => simp [writeRecords]
  | cons fields records ih =>
    obtain ⟨hfields, hrecords⟩ := List.forall_mem_cons.mp h
    have written : writeRecords (fields :: records) =
        (writeFields fields ++ ['\n']) ++ writeRecords records := List.flatMap_cons
    rw [written, run?_append, run?_writeFields done [] hfields, Option.bind_some,
      ih _ hrecords, List.nil_append, List.append_assoc, List.singleton_append]

end Reader

/-- Records that have fields are read back as they were written. -/
theorem read?_text {records : List (List String)} (h : ∀ fields ∈ records, fields ≠ []) :
    read? (text records) = some records := by
  have hchars : ∀ fields ∈ records.map (fun fields => fields.map String.toList), fields ≠ [] := by
    intro fields hm
    obtain ⟨strings, hs, rfl⟩ := List.mem_map.mp hm
    exact fun he => h strings hs (List.map_eq_nil_iff.mp he)
  unfold read? text
  rw [String.toList_ofList, Reader.initial, Reader.run?_writeRecords [] hchars]
  simp [Reader.finish?, Function.comp_def]

/-- A field with a comma, quotes and a line feed, then one that is empty. -/
example : read? "\"a,\"\"b\"\"\n\",\n" = some [["a,\"b\"\n", ""]] := by decide

end RunTable.Csv
