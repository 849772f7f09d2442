import RunTable.Command.Opening
import RunTable.Proofs.Storage.LastWritten

/-! # Databases that are closed and opened again

A database whose changes go through a log rests in its file: while it is open,
a log and an index stand beside the file, and when it is left they are removed,
whether or not anything was written. A visit to a database at rest therefore
finds it as it was, and leaves a database at rest (`Disk.lends_visit`). The
first visit to a free place makes an empty one (`Disk.lends_visit_new`). What a
visit changes lies beside the file, so that the path still leads there
afterwards (`Disk.Straight.of_agreesAbove`). -/

namespace RunTable.Command

namespace Companion

theorem ending_injective {c c' : Companion} (h : c.ending = c'.ending) : c = c' := by
  revert h
  cases c <;> cases c' <;> decide

theorem ending_ne_empty (c : Companion) : c.ending ≠ "" := by
  cases c <;> decide

end Companion

namespace Disk

/-! ## Places -/

theorem length_beside {place : List String} (h : place ≠ []) (c : Companion) :
    (beside place c).length = place.length := by
  have hpos := List.length_pos_iff.mpr h
  rw [beside, List.length_append, List.length_dropLast, List.length_singleton]
  omega

theorem beside_ne_beside (place : List String) {c c' : Companion} (h : c ≠ c') :
    beside place c ≠ beside place c' := by
  intro same
  have names := List.append_cancel_left same
  simp only [List.cons.injEq, and_true] at names
  exact h (Companion.ending_injective ((String.append_right_inj _).mp names))

theorem beside_ne {place : List String} (h : place ≠ []) (c : Companion) :
    beside place c ≠ place := by
  intro same
  have hlast : (beside place c).getLast? = place.getLast? := congrArg List.getLast? same
  rw [beside, List.getLast?_concat, List.getLast?_eq_some_getLast h, Option.getD_some,
    Option.some.injEq] at hlast
  have hempty : c.ending = "" := by simpa using hlast
  exact c.ending_ne_empty hempty

/-- A place where a database can be kept: files can be there and beside it. -/
structure Site (place : List String) : Prop where
  below : place ≠ []
  inside : outside? place = none
  beside : ∀ c, outside? (beside place c) = none
  short : ∀ c, (Disk.beside place c).getLast?.any tooLong = false

/-- Nothing is kept beside a place. -/
def Alone (d : Disk) (place : List String) : Prop := ∀ c, d.at? (beside place c) = none

/-- The file at a place is a database whose changes go through a log, and it
was left in order. -/
structure Rests (d : Disk) (place : List String) (table : Option Database) : Prop where
  file : d.at? place = some (.database table true)
  alone : d.Alone place

variable {d : Disk} {place : List String} {table : Option Database} {path : String}

/-! ## Opening -/

/-- The disk while the log of a database is open. -/
def opened (d : Disk) (place : List String) : Disk :=
  (d.put (beside place .log) (.text "")).put (beside place .index) .scrap

theorem at?_opened (site : Site place) (d : Disk) : (d.opened place).at? place = d.at? place := by
  rw [opened, at?_put_of_ne _ (beside_ne site.below _).symm,
    at?_put_of_ne _ (beside_ne site.below _).symm]

theorem blocks_eq_false (site : Site place) (alone : d.Alone place) (c : Companion) :
    d.blocks (beside place c) = false := by
  rw [blocks, alone c, site.short c]
  rfl

/-- A log is opened with an index that others can use. -/
theorem openLog_eq (site : Site place) (rests : d.Rests place table) (path : String) :
    d.openLog (.ofPath path) place =
      ⟨d.opened place, some .shared, some (.database table true)⟩ := by
  have hindex : (d.put (beside place .log) (.text "")).at? (beside place .index) = none := by
    rw [at?_put_of_ne _ (beside_ne_beside place (by decide))]
    exact rests.alone .index
  have hstored : (d.opened place).stored place = .database table true := by
    rw [stored, at?_opened site, rests.file]
    rfl
  have hopened : (d.put (beside place .log) (.text "")).openIndex (.ofPath path) place
      (.text "") = (d.opened place, .shared) := by
    simp [openIndex, Address.sharesIndex, Address.ofPath, hindex, opened]
  have hlogs : (Address.ofPath path).logs = true := rfl
  simp [openLog, hlogs, blocks_eq_false site rests.alone, rests.alone .log, hopened, hstored]

theorem readDatabase_of_rests (site : Site place) (rests : d.Rests place table) (path : String) :
    d.readDatabase (.ofPath path) place =
      ⟨d.opened place, some .shared, some (.database table true)⟩ := by
  have hrecovered : d.recovered? (.ofPath path) place = some d := by
    simp [recovered?, Address.ofPath, rests.alone .journal]
  have hstored : d.stored place = .database table true := by
    rw [stored, rests.file]
    rfl
  have hlog : (d.at? (beside place .log)).filter (!·.isEmpty) = none := by
    rw [rests.alone .log]
    rfl
  simp only [readDatabase, hrecovered, hstored, hlog]
  exact openLog_eq site rests path

/-! ## Leaving -/

/-- Two disks have the same at all places that have fewer steps than one. -/
def AgreesAbove (d d' : Disk) (place : List String) : Prop :=
  ∀ x, x.length < place.length → d'.at? x = d.at? x

section

variable {d' : Disk} {x : List String}

theorem AgreesAbove.put (h : d.AgreesAbove d' place) (hx : x.length = place.length)
    (entry : Entry) : d.AgreesAbove (d'.put x entry) place := by
  intro y hy
  have hne : y ≠ x := by
    rintro rfl
    omega
  rw [at?_put_of_ne _ hne]
  exact h y hy

theorem AgreesAbove.clear (h : d.AgreesAbove d' place) (hx : x.length = place.length) :
    d.AgreesAbove (d'.clear x) place := by
  intro y hy
  have hne : y ≠ x := by
    rintro rfl
    omega
  rw [at?_clear_of_ne _ hne]
  exact h y hy

end

theorem AgreesAbove.refl (d : Disk) (place : List String) : d.AgreesAbove d place := fun _ _ => rfl

theorem agreesAbove_opened (site : Site place) (d : Disk) : d.AgreesAbove (d.opened place) place :=
  ((AgreesAbove.refl d place).put (length_beside site.below .log) _).put
    (length_beside site.below .index) _

/-- The disk when log and index are removed. -/
def closed (d : Disk) (place : List String) : Disk :=
  (d.clear (beside place .log)).clear (beside place .index)

theorem AgreesAbove.closed {d' : Disk} (h : d.AgreesAbove d' place) (site : Site place) :
    d.AgreesAbove (d'.closed place) place :=
  (h.clear (length_beside site.below .log)).clear (length_beside site.below .index)

theorem at?_closed {x : List String} (d : Disk) (hlog : x ≠ beside place .log)
    (hindex : x ≠ beside place .index) : (d.closed place).at? x = d.at? x := by
  rw [closed, at?_clear_of_ne _ hindex, at?_clear_of_ne _ hlog]

/-- A database rests once log and index are removed. -/
theorem rests_closed (site : Site place) (file : d.at? place = some (.database table true))
    (journal : d.at? (beside place .journal) = none)
    (marker : d.at? (beside place .marker) = none) : (d.closed place).Rests place table := by
  have apart {c c' : Companion} (h : c ≠ c') := beside_ne_beside place h
  constructor
  · rw [at?_closed _ (beside_ne site.below _).symm (beside_ne site.below _).symm]
    exact file
  · intro c
    cases c with
    | journal => rw [at?_closed _ (apart (by decide)) (apart (by decide)), journal]
    | log => rw [closed, at?_clear_of_ne _ (apart (by decide)), at?_clear_self _ (site.beside .log)]
    | index => rw [closed, at?_clear_self _ (site.beside .index)]
    | marker => rw [at?_closed _ (apart (by decide)) (apart (by decide)), marker]

/-- The connection to a database at rest. -/
def inUse (d : Disk) (place : List String) (table : Option Database) : Use :=
  ⟨d.opened place, some .shared, some (.database table true)⟩

/-- Whether or not the table has changed, its file holds it before log and index
are removed. -/
theorem leave_inUse (site : Site place) (rests : d.Rests place table) (path : String)
    (left : Database) :
    let e := (d.inUse place table).leave (.ofPath path) place (.database table true) left
    e.Rests place (some left) ∧ d.AgreesAbove e place := by
  have hbeside (c : Companion) (h : c ≠ .log) (h' : c ≠ .index) :
      (d.opened place).at? (beside place c) = none := by
    rw [opened, at?_put_of_ne _ (beside_ne_beside place h'),
      at?_put_of_ne _ (beside_ne_beside place h)]
    exact rests.alone c
  have hjournal := hbeside .journal (by decide) (by decide)
  have hmarker := hbeside .marker (by decide) (by decide)
  have above := agreesAbove_opened site d
  unfold Use.leave
  split
  · next same =>
    have htable : table = some left := same
    have hfile : (d.opened place).at? place = some (.database (some left) true) := by
      rw [at?_opened site, rests.file, htable]
    exact ⟨rests_closed site hfile hjournal hmarker, above.closed site⟩
  · have hput (c : Companion) := beside_ne site.below c
    refine ⟨rests_closed site (at?_put_self _ site.inside _) ?_ ?_,
      (above.put rfl _).closed site⟩
    · exact (at?_put_of_ne _ (hput .journal) _).trans hjournal
    · exact (at?_put_of_ne _ (hput .marker) _).trans hmarker

/-- A visit finds a database that can be written, and what is left of it rests
at its place. -/
structure Lends (d : Disk) (place : List String) (db : Database) (visit : Visit) : Prop where
  opens : ∃ c, visit.result = .ok c ∧ c.database = db ∧ c.writable = true
  rests : ∀ left, (visit.after (some left)).Rests place (some left)
  above : ∀ left, d.AgreesAbove (visit.after (some left)) place

theorem lends_visit (site : Site place) (rests : d.Rests place table) (path : String) :
    Lends d place (table.getD .empty) (d.visit (.ofPath path) place) := by
  have hvisit : d.visit (.ofPath path) place =
      (d.inUse place table).visit (.ofPath path) place := by
    show ((d.readDatabase (.ofPath path) place).withLog (.ofPath path) place).visit
      (.ofPath path) place = _
    rw [readDatabase_of_rests site rests]
    rfl
  have hwrite : (d.inUse place table).canWrite (.ofPath path) place = true := rfl
  rw [hvisit, Use.visit]
  simp only [hwrite, Bool.or_true, if_true]
  constructor
  · exact ⟨_, rfl, rfl, rfl⟩
  · intro left
    exact (leave_inUse site rests path left).1
  · intro left
    exact (leave_inUse site rests path left).2

/-! ## Making a database -/

theorem Alone.put (site : Site place) (alone : d.Alone place) (entry : Entry) :
    (d.put place entry).Alone place := by
  intro c
  rw [at?_put_of_ne _ (beside_ne site.below c)]
  exact alone c

/-- A database that is made in a file rests there, without a table. -/
theorem rests_made (site : Site place) (alone : d.Alone place) :
    ((d.clear (beside place .journal)).put place (.database none true)).Rests place none := by
  have hclear : (d.clear (beside place .journal)).Alone place := by
    intro c
    by_cases hc : c = .journal
    · subst hc
      exact at?_clear_self _ (site.beside _)
    · rw [at?_clear_of_ne _ (beside_ne_beside place hc)]
      exact alone c
  exact ⟨at?_put_self _ site.inside _, hclear.put site _⟩

/-- In an empty file nothing is found. -/
theorem readDatabase_of_empty (file : d.at? place = some (.text "")) (alone : d.Alone place)
    (path : String) :
    d.readDatabase (.ofPath path) place = ⟨d, none, some .nothing⟩ := by
  have hrecovered : d.recovered? (.ofPath path) place = some d := by
    simp [recovered?, Address.ofPath, alone .journal]
  have hstored : d.stored place = .nothing := by
    rw [stored, file]
    rfl
  have hlog : (d.at? (beside place .log)).filter (!·.isEmpty) = none := by
    rw [alone .log]
    rfl
  simp only [readDatabase, hrecovered, hstored, hlog]

/-- A database that is made in an empty file is empty, and kept from then on. -/
theorem lends_visit_new (site : Site place) (alone : d.Alone place) (path : String) :
    Lends d place .empty ((d.put place (.text "")).visit (.ofPath path) place) := by
  let new := d.put place (.text "")
  let made := (new.clear (beside place .journal)).put place (.database none true)
  have hnew : new.Alone place := alone.put site _
  have hrests : made.Rests place none := rests_made site hnew
  have hread : new.readDatabase (.ofPath path) place = ⟨new, none, some .nothing⟩ :=
    readDatabase_of_empty (at?_put_self _ site.inside _) hnew path
  have hlogged : (Use.mk new none (some .nothing)).withLog (.ofPath path) place =
      made.readDatabase (.ofPath path) place := by
    have hwrite : (Use.mk new none (some .nothing)).canWrite (.ofPath path) place = true := by
      simp [Use.canWrite, Address.ofPath, blocks_eq_false site hnew]
    have hlogs : (Address.ofPath path).logs = true := rfl
    simp only [Use.withLog, hwrite, hlogs, Option.isNone_none, Bool.and_true, if_true]
    rfl
  have hvisit : new.visit (.ofPath path) place = made.visit (.ofPath path) place := by
    show ((new.readDatabase (.ofPath path) place).withLog (.ofPath path) place).visit _ _ =
      ((made.readDatabase (.ofPath path) place).withLog (.ofPath path) place).visit _ _
    rw [hread, hlogged, readDatabase_of_rests site hrests]
    rfl
  have habove : d.AgreesAbove made place :=
    (((AgreesAbove.refl d place).put rfl _).clear (length_beside site.below .journal)).put rfl _
  have lends := lends_visit site hrests path
  rw [hvisit]
  exact ⟨lends.opens, lends.rests, fun left x hx => (lends.above left x hx).trans (habove x hx)⟩

/-! ## Finding the place again -/

/-- A path that no other name or setting hides behind, and that leads straight
to a place. -/
structure Straight (d : Disk) (path : String) (place : List String) : Prop where
  plain : Address.parse? path = some (.ofPath path)
  named : Address.nameless path = false
  forward : ".." ∉ steps path
  leads : d.place? path = some place

theorem placeAlong_congr {d' : Disk} {start : List String} {way : List String}
    (forward : ".." ∉ way) (leads : d.placeAlong start way = some place)
    (agrees : d.AgreesAbove d' place) :
    start.length ≤ place.length ∧ d'.placeAlong start way = some place := by
  induction way generalizing start with
  | nil =>
    obtain rfl := Option.some.inj leads
    exact ⟨Nat.le_refl _, rfl⟩
  | cons step rest ih =>
    obtain ⟨hstep, hrest⟩ := List.ne_and_not_mem_of_not_mem_cons forward
    unfold placeAlong at leads ⊢
    by_cases hblank : step = "" ∨ step = "."
    · rw [if_pos hblank] at leads ⊢
      exact ih hrest leads
    · rw [if_neg hblank, if_neg hstep.symm] at leads ⊢
      simp only at leads ⊢
      split at leads
      · cases leads
      · next hfree =>
        obtain ⟨hlength, hleads⟩ := ih hrest leads
        rw [List.length_append, List.length_singleton] at hlength
        have hsame : d'.holdsFile start = d.holdsFile start := by
          rw [holdsFile, holdsFile, agrees start (by omega)]
        rw [hsame, if_neg hfree]
        exact ⟨by omega, hleads⟩

theorem Straight.of_agreesAbove {d' : Disk} (h : d.Straight path place)
    (agrees : d.AgreesAbove d' place) : d'.Straight path place where
  plain := h.plain
  named := h.named
  forward := h.forward
  leads := (placeAlong_congr h.forward h.leads agrees).2

/-- A place that is free for a database, in a directory. -/
structure Vacant (d : Disk) (path : String) (place : List String) : Prop
    extends d.Straight path place where
  free : d.at? place = none
  alone : d.Alone place
  inside : place.head? ≠ some "/"
  directory : d.at? (parent place) = some .directory
  short : ∀ c, (beside place c).getLast?.any tooLong = false

theorem outside?_eq_none {x : List String} (h : d.at? x = none) : outside? x = none :=
  (Option.or_eq_none_iff.mp h).1

theorem Vacant.site (h : d.Vacant path place) : Site place where
  below := by
    rintro rfl
    have htop : outside? [] = none := outside?_eq_none h.free
    exact absurd htop (by decide)
  inside := outside?_eq_none h.free
  beside c := outside?_eq_none (h.alone c)
  short := h.short

theorem lends_connect_new (h : d.Vacant path place) :
    Lends d place .empty (d.connect (.named path)) := by
  have hconnect : d.connect (.named path) =
      (d.put place (.text "")).visit (.ofPath path) place := by
    have htemporary : (Address.ofPath path).temporary = false := h.named
    have hleads : d.place? (Address.ofPath path).path = some place := h.leads
    have hmodel : (Address.ofPath path).model.all d.holds = true := rfl
    have haccess : (Address.ofPath path).access = .creating := rfl
    have haddress : (Location.named path).address? = some (.ofPath path) := h.plain
    have hprepare : d.prepare (.named path) = d := rfl
    simp only [connect, hprepare, haddress, htemporary, hleads, hmodel, h.free, haccess]
    simp [h.inside, h.directory]
  rw [hconnect]
  exact lends_visit_new h.site h.alone path

theorem lends_connect (site : Site place) (straight : d.Straight path place)
    (rests : d.Rests place table) :
    Lends d place (table.getD .empty) (d.connect (.named path)) := by
  have hconnect : d.connect (.named path) = d.visit (.ofPath path) place := by
    have htemporary : (Address.ofPath path).temporary = false := straight.named
    have hleads : d.place? (Address.ofPath path).path = some place := straight.leads
    have hmodel : (Address.ofPath path).model.all d.holds = true := rfl
    have haddress : (Location.named path).address? = some (.ofPath path) := straight.plain
    have hprepare : d.prepare (.named path) = d := rfl
    simp only [connect, hprepare, haddress, htemporary, hleads, hmodel, rests.file]
    simp
  rw [hconnect]
  exact lends_visit site rests path

end Disk
end RunTable.Command
