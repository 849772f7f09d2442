import RunTable.Proofs.Poll.Moves

/-! # What a poll is answered

A poll fetches each entry of a list of resources, so a resource that is listed
twice is answered twice. What a poll reports and what it leaves in the cache
are determined by its answers in the order of the list: the first entry that is
gone is reported (`Reports`), and under each resource the last answer that is
not transient counts (`get?_foldl_keep_of_data`, `get?_foldl_keep_of_gone`).
When a reply is due and whether it is still awaited is no part of this. -/

namespace RunTable.Poll

variable {δ : Type}

namespace Reply

def isData (reply : Reply δ) : Bool := reply matches .ok _

def isGone (reply : Reply δ) : Bool := reply matches .error (.notFound _)

def isTransient (reply : Reply δ) : Bool := reply matches .error (.transient _)

end Reply

/-- An entry of the resources with what it was answered. -/
structure Entry (δ : Type) where
  resource : String
  reply : Reply δ

def Fetch.entry (f : Fetch δ) : Entry δ := ⟨f.resource, f.reply⟩

def Flight.entries (f : Flight δ) : List (Entry δ) := f.fetches.map Fetch.entry

/-- The cache after an answer: data are kept, and a resource that is gone is thrown out. -/
def Entry.keep (cache : KeyMap δ) (e : Entry δ) : KeyMap δ :=
  match e.reply with
  | .ok data => cache.insert e.resource data
  | .error (.notFound _) => cache.erase e.resource
  | .error (.transient _) => cache

/-- What resources are answered if they are fetched one after the other. -/
def entriesOf (source : Source δ) (counts : KeyMap Nat) : List String → List (Entry δ)
  | [] => []
  | r :: rest =>
    let count := (counts.get? r).getD 0 + 1
    ⟨r, (source r count).reply⟩ :: entriesOf source (counts.insert r count) rest

/-- What a poll is answered that begins now. -/
def Controller.nextEntries (c : Controller δ) : List (Entry δ) :=
  entriesOf c.setup.source c.counts c.setup.resources

theorem resource_entriesOf (source : Source δ) (counts : KeyMap Nat) (resources : List String) :
    (entriesOf source counts resources).map (·.resource) = resources := by
  induction resources generalizing counts with
  | nil => rfl
  | cons r rest ih => exact congrArg (r :: ·) (ih _)

theorem entries_issueFetches (c : Controller δ) (resources : List String) :
    (c.issueFetches resources).2.map Fetch.entry =
      entriesOf c.setup.source c.counts resources := by
  induction resources generalizing c with
  | nil => rfl
  | cons r rest ih => exact congrArg (_ :: ·) (ih _)

/-- Whether a reply has come makes no difference to what it says. -/
theorem Flight.entries_receive (f : Flight δ) (n : Nat) : (f.receive n).entries = f.entries :=
  map_receive Fetch.entry (fun _ _ => rfl) f n

/-! ## What is reported -/

/-- An outcome is what answers call for. -/
structure Reports (entries : List (Entry δ)) (outcome : Outcome) : Prop where
  completed : (∀ e ∈ entries, e.reply.isGone = false) →
    outcome = .completed (entries.countP (·.reply.isData)) (entries.countP (·.reply.isTransient))
  notFound : ∀ before resource detail after,
    entries = before ++ ⟨resource, .error (.notFound detail)⟩ :: after →
    (∀ e ∈ before, e.reply.isGone = false) → outcome = .notFound resource

theorem Reply.eq_of_isGone {reply : Reply δ} (h : reply.isGone = true) :
    ∃ detail, reply = .error (.notFound detail) := by
  cases reply with
  | ok => cases h
  | error err =>
    cases err with
    | notFound detail => exact ⟨detail, rfl⟩
    | transient => cases h

/-- Nothing is gone, or there is a first entry that is. -/
theorem gone_cases (entries : List (Entry δ)) :
    (∀ e ∈ entries, e.reply.isGone = false) ∨
    ∃ before resource detail after,
      entries = before ++ ⟨resource, .error (.notFound detail)⟩ :: after ∧
      ∀ e ∈ before, e.reply.isGone = false := by
  induction entries with
  | nil => exact .inl fun _ he => nomatch he
  | cons e rest ih =>
    cases hgone : e.reply.isGone with
    | true =>
      obtain ⟨resource, reply⟩ := e
      obtain ⟨detail, rfl⟩ := Reply.eq_of_isGone hgone
      exact .inr ⟨[], resource, detail, rest, rfl, fun _ he => nomatch he⟩
    | false =>
      rcases ih with hrest | ⟨before, resource, detail, after, rfl, hbefore⟩
      · exact .inl (List.forall_mem_cons.mpr ⟨hgone, hrest⟩)
      · exact .inr ⟨e :: before, resource, detail, after, rfl,
          List.forall_mem_cons.mpr ⟨hgone, hbefore⟩⟩

theorem Reports.unique {entries : List (Entry δ)} {outcome outcome' : Outcome}
    (h : Reports entries outcome) (h' : Reports entries outcome') : outcome = outcome' := by
  rcases gone_cases entries with hkept | ⟨before, resource, detail, after, heq, hbefore⟩
  · rw [h.completed hkept, h'.completed hkept]
  · rw [h.notFound _ _ _ _ heq hbefore, h'.notFound _ _ _ _ heq hbefore]

theorem outcomeOf_eq (f : Flight δ) :
    Controller.outcomeOf f.fetches = (f.entries.find? (·.reply.isGone)).elim
      (.completed (f.entries.countP (·.reply.isData)) (f.entries.countP (·.reply.isTransient)))
      (.notFound ·.resource) := by
  unfold Flight.entries Controller.outcomeOf
  rw [List.find?_map, List.countP_map, List.countP_map]
  split
  · next g hfirst =>
    rw [show f.fetches.find? ((·.reply.isGone) ∘ Fetch.entry) = some g from hfirst]
    rfl
  · next hnone =>
    rw [show f.fetches.find? ((·.reply.isGone) ∘ Fetch.entry) = none from hnone]
    rfl

/-- The outcome of a poll is what its answers call for. -/
theorem Flight.reports (f : Flight δ) : Reports f.entries (Controller.outcomeOf f.fetches) := by
  rw [outcomeOf_eq]
  constructor
  · intro hkept
    have hnone : f.entries.find? (·.reply.isGone) = none :=
      List.find?_eq_none.mpr fun e he => Bool.eq_false_iff.mp (hkept e he)
    rw [hnone]
    rfl
  · intro before resource detail after heq hbefore
    have hnone : before.find? (·.reply.isGone) = none :=
      List.find?_eq_none.mpr fun e he => Bool.eq_false_iff.mp (hbefore e he)
    rw [heq, List.find?_append, hnone]
    rfl

theorem exists_reports (entries : List (Entry δ)) : ∃ outcome, Reports entries outcome := by
  -- there is a poll with these answers, and its outcome is what they call for
  let f : Flight δ := ⟨.waiting, entries.map fun e => ⟨e.resource, 0, 0, e.reply, false⟩⟩
  have hentries : f.entries = entries := by
    show (entries.map _).map Fetch.entry = entries
    rw [List.map_map]
    exact List.map_id' entries
  exact ⟨_, hentries ▸ f.reports⟩

/-- Data and transient errors make up all answers if nothing is gone. -/
theorem countP_add_countP_of_kept {entries : List (Entry δ)}
    (h : ∀ e ∈ entries, e.reply.isGone = false) :
    entries.countP (·.reply.isData) + entries.countP (·.reply.isTransient) = entries.length := by
  rw [List.length_eq_countP_add_countP (fun e : Entry δ => e.reply.isData)]
  congr 1
  refine List.countP_congr fun e he => ?_
  have hkept := h e he
  obtain ⟨resource, reply⟩ := e
  cases reply with
  | ok => simp [Reply.isData, Reply.isTransient]
  | error err =>
    cases err with
    | notFound => cases hkept
    | transient => simp [Reply.isData, Reply.isTransient]

/-! ## What is kept -/

theorem foldl_store_eq (f : Flight δ) (cache : KeyMap δ) :
    f.fetches.foldl Controller.store cache = f.entries.foldl Entry.keep cache := by
  rw [Flight.entries, List.foldl_map]
  rfl

section

variable {entries before after : List (Entry δ)} {r : String}

theorem get?_keep_of_ne {e : Entry δ} (h : e.resource ≠ r) (cache : KeyMap δ) :
    (e.keep cache).get? r = cache.get? r := by
  unfold Entry.keep
  split
  · exact KeyMap.get?_insert_of_ne (Ne.symm h) cache _
  · rw [KeyMap.get?_erase, if_neg (Ne.symm h)]
  · rfl

/-- Nothing changes under a resource that has transient answers only. -/
theorem get?_foldl_keep_of_transient (cache : KeyMap δ)
    (h : ∀ e ∈ entries, e.resource = r → e.reply.isTransient = true) :
    (entries.foldl Entry.keep cache).get? r = cache.get? r := by
  induction entries generalizing cache with
  | nil => rfl
  | cons e rest ih =>
    obtain ⟨he, hrest⟩ := List.forall_mem_cons.mp h
    rw [List.foldl_cons, ih _ hrest]
    by_cases hr : e.resource = r
    · obtain ⟨resource, reply⟩ := e
      cases reply with
      | ok => cases he hr
      | error err =>
        cases err with
        | notFound => cases he hr
        | transient => rfl
    · exact get?_keep_of_ne hr cache

theorem get?_foldl_keep_of_data (cache : KeyMap δ) (data : δ)
    (h : ∀ e ∈ after, e.resource = r → e.reply.isTransient = true) :
    ((before ++ ⟨r, .ok data⟩ :: after).foldl Entry.keep cache).get? r = some data := by
  rw [List.foldl_append, List.foldl_cons, get?_foldl_keep_of_transient _ h]
  exact KeyMap.get?_insert_self ..

theorem get?_foldl_keep_of_gone (cache : KeyMap δ) (detail : String)
    (h : ∀ e ∈ after, e.resource = r → e.reply.isTransient = true) :
    ((before ++ ⟨r, .error (.notFound detail)⟩ :: after).foldl Entry.keep cache).get? r = none := by
  rw [List.foldl_append, List.foldl_cons, get?_foldl_keep_of_transient _ h]
  exact (KeyMap.get?_erase ..).trans (if_pos rfl)

/-- A resource has transient answers only, or there is a last answer that is not. -/
theorem last_cases (entries : List (Entry δ)) (r : String) :
    (∀ e ∈ entries, e.resource = r → e.reply.isTransient = true) ∨
    ∃ before reply after, entries = before ++ ⟨r, reply⟩ :: after ∧ reply.isTransient = false ∧
      ∀ e ∈ after, e.resource = r → e.reply.isTransient = true := by
  induction entries with
  | nil => exact .inl fun _ he => nomatch he
  | cons e rest ih =>
    rcases ih with hrest | ⟨before, reply, after, rfl, hreply, hafter⟩
    · by_cases he : e.resource = r → e.reply.isTransient = true
      · exact .inl (List.forall_mem_cons.mpr ⟨he, hrest⟩)
      · obtain ⟨rfl, hreply⟩ := Classical.not_imp.mp he
        exact .inr ⟨[], e.reply, rest, rfl, Bool.eq_false_iff.mpr hreply, hrest⟩
    · exact .inr ⟨e :: before, reply, after, rfl, hreply, hafter⟩

end

end RunTable.Poll
