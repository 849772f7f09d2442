import RunTable.View.State

/-! # What is hidden agrees with the switch

Of the three copies of what is hidden, the one that is shown has to be the copy
of the side on which the switch stands. No action breaks this. Turning the
switch over and starting again also establish it, because they write the shown
copy and the copy of the new side together. -/

namespace RunTable

namespace DiffSwitch

variable {s : DiffSwitch}

theorem consistent_iff : s.Consistent ↔
    (s.isOn = true → s.hidden = s.whileOn) ∧ (s.isOn = false → s.hidden = s.whileOff) := by
  unfold Consistent
  cases s.isOn <;> simp

/-! ## What each change does -/

theorem turnOn_of_off (h : s.isOn = false) (constant : HiddenKeys) :
    s.turnOn constant =
      ⟨s.hidden.union constant, true, s.hidden, s.hidden.union constant⟩ := by
  simp [turnOn, h]

theorem turnOn_of_on (h : s.isOn = true) (constant : HiddenKeys) : s.turnOn constant = s := by
  simp [turnOn, h]

theorem turnOff_of_on (h : s.isOn = true) :
    s.turnOff = ⟨s.whileOff, false, s.whileOff, s.whileOn⟩ := by
  simp [turnOff, h]

theorem turnOff_of_off (h : s.isOn = false) : s.turnOff = s := by
  simp [turnOff, h]

theorem setHidden_of_on (h : s.isOn = true) (c : Category) (keys : KeySet) :
    s.setHidden c keys =
      ⟨s.hidden.set c keys, true, s.whileOff, s.whileOn.set c keys⟩ := by
  simp [setHidden, h]

theorem setHidden_of_off (h : s.isOn = false) (c : Category) (keys : KeySet) :
    s.setHidden c keys =
      ⟨s.hidden.set c keys, false, s.whileOff.set c keys, s.whileOn⟩ := by
  simp [setHidden, h]

@[simp] theorem isOn_setHidden (c : Category) (keys : KeySet) :
    (s.setHidden c keys).isOn = s.isOn := by
  unfold setHidden
  split <;> rfl

@[simp] theorem hidden_setHidden (c : Category) (keys : KeySet) :
    (s.setHidden c keys).hidden = s.hidden.set c keys := by
  unfold setHidden
  split <;> rfl

/-- An edit stays within its category, in all copies. -/
theorem get_setHidden_of_ne {c c' : Category} (hc : c' ≠ c) (keys : KeySet) :
    (s.setHidden c keys).hidden.get c' = s.hidden.get c' ∧
      (s.setHidden c keys).whileOff.get c' = s.whileOff.get c' ∧
      (s.setHidden c keys).whileOn.get c' = s.whileOn.get c' := by
  have hset : ∀ h : HiddenKeys, (h.set c keys).get c' = h.get c' :=
    fun h => HiddenKeys.get_set_of_ne h hc keys
  cases h : s.isOn with
  | true => rw [setHidden_of_on h]; exact ⟨hset _, rfl, hset _⟩
  | false => rw [setHidden_of_off h]; exact ⟨hset _, hset _, rfl⟩

/-! ## Consistency -/

theorem consistent_initial : initial.Consistent := rfl

theorem consistent_turnOn (h : s.isOn = false) (constant : HiddenKeys) :
    (s.turnOn constant).Consistent := by
  rw [turnOn_of_off h]
  rfl

theorem consistent_turnOff (h : s.isOn = true) : s.turnOff.Consistent := by
  rw [turnOff_of_on h]
  rfl

theorem Consistent.turnOn (hs : s.Consistent) (constant : HiddenKeys) :
    (s.turnOn constant).Consistent := by
  cases h : s.isOn with
  | true => rw [turnOn_of_on h]; exact hs
  | false => exact consistent_turnOn h constant

theorem Consistent.turnOff (hs : s.Consistent) : s.turnOff.Consistent := by
  cases h : s.isOn with
  | true => exact consistent_turnOff h
  | false => rw [turnOff_of_off h]; exact hs

theorem Consistent.setHidden (hs : s.Consistent) (c : Category) (keys : KeySet) :
    (s.setHidden c keys).Consistent := by
  obtain ⟨hon, hoff⟩ := consistent_iff.mp hs
  cases h : s.isOn with
  | true =>
    rw [setHidden_of_on h, hon h]
    rfl
  | false =>
    rw [setHidden_of_off h, hoff h]
    rfl

end DiffSwitch

namespace ViewState

variable {s t : ViewState}

/-! ## Runs -/

theorem consistent_apply (h : s.columns.Consistent) (a : ViewAction) :
    (s.apply a).columns.Consistent := by
  cases a with
  | setHidden c keys => exact h.setHidden c keys
  | turnDiffOn constant => exact h.turnOn constant
  | turnDiffOff => exact h.turnOff
  | reset => exact DiffSwitch.consistent_initial
  | setSearch | setParamFilter | setMetricFilter | setStage | setSort | setLayout => exact h

/-- Every state that a run passes through is consistent if its first one is. -/
theorem consistent_of_mem_scanl {actions : List ViewAction} (h : s.columns.Consistent)
    (ht : t ∈ actions.scanl apply s) : t.columns.Consistent := by
  induction actions generalizing s with
  | nil =>
    rw [List.scanl_nil, List.mem_singleton] at ht
    exact ht ▸ h
  | cons a actions ih =>
    rw [List.scanl_cons] at ht
    rcases List.mem_cons.mp ht with rfl | ht
    · exact h
    · exact ih (consistent_apply h a) ht

/-- **The shown copy is the copy of the side.** It stays so in every run, it
becomes so at every turn of the switch and at a reset, from whatever state, and
an edit leaves the other side and the other categories as they are. -/
theorem columns_consistent_throughout :
    (∀ (s : ViewState) (actions : List ViewAction), s = .initial ∨ s.columns.Consistent →
      ∀ t ∈ actions.scanl apply s,
        (t.columns.isOn = true → t.columns.hidden = t.columns.whileOn) ∧
        (t.columns.isOn = false → t.columns.hidden = t.columns.whileOff)) ∧
    (∀ (s : ViewState) (constant : HiddenKeys),
      (s.columns.isOn = false → (s.apply (.turnDiffOn constant)).columns.Consistent) ∧
      (s.columns.isOn = true → (s.apply .turnDiffOff).columns.Consistent) ∧
      (s.apply .reset).columns.Consistent) ∧
    ∀ (s : ViewState) (c : Category) (keys : KeySet),
      let t := s.apply (.setHidden c keys)
      t.columns.isOn = s.columns.isOn ∧ t.columns.hidden.get c = keys ∧
      (s.columns.isOn = true → t.columns.whileOff = s.columns.whileOff) ∧
      (s.columns.isOn = false → t.columns.whileOn = s.columns.whileOn) ∧
      ∀ c', c' ≠ c →
        t.columns.hidden.get c' = s.columns.hidden.get c' ∧
        t.columns.whileOff.get c' = s.columns.whileOff.get c' ∧
        t.columns.whileOn.get c' = s.columns.whileOn.get c' := by
  refine ⟨?_, ?_, ?_⟩
  · intro s actions hs t ht
    have start : s.columns.Consistent := by
      rcases hs with rfl | hs
      · exact DiffSwitch.consistent_initial
      · exact hs
    exact DiffSwitch.consistent_iff.mp (consistent_of_mem_scanl start ht)
  · exact fun s constant => ⟨fun h => DiffSwitch.consistent_turnOn h constant,
      DiffSwitch.consistent_turnOff, DiffSwitch.consistent_initial⟩
  · intro s c keys t
    refine ⟨DiffSwitch.isOn_setHidden c keys, ?_, ?_, ?_, ?_⟩
    · show (s.columns.setHidden c keys).hidden.get c = keys
      rw [DiffSwitch.hidden_setHidden, HiddenKeys.get_set_self]
    · intro h
      show (s.columns.setHidden c keys).whileOff = s.columns.whileOff
      rw [DiffSwitch.setHidden_of_on h]
    · intro h
      show (s.columns.setHidden c keys).whileOn = s.columns.whileOn
      rw [DiffSwitch.setHidden_of_off h]
    · exact fun c' hc => DiffSwitch.get_setHidden_of_ne hc keys

/-- A run with edits on both sides, and two states whose copies disagree. -/
theorem columns_consistent_throughout_edits :
    let keys := KeySet.ofList ["lr"]
    let seed := HiddenKeys.none.set .params (.ofList ["seed"])
    let edits : List ViewAction :=
      [.setHidden .params keys, .turnDiffOn seed, .setHidden .tags keys, .turnDiffOn .none,
        .setHidden .params .empty, .turnDiffOff, .setSearch "a", .turnDiffOn seed]
    let off : ViewState := { initial with columns := ⟨seed, false, .none, .none⟩ }
    let on : ViewState := { initial with columns := ⟨seed, true, .none, .none⟩ }
    (∀ t ∈ edits.scanl apply initial, t.columns.Consistent) ∧
    ¬ off.columns.Consistent ∧ (off.apply (.turnDiffOn seed)).columns.Consistent ∧
    ¬ on.columns.Consistent ∧ (on.apply .turnDiffOff).columns.Consistent ∧
    (on.apply (.setHidden .tags keys)).columns.whileOff = .none ∧
    (off.apply (.setHidden .tags keys)).columns.whileOn = .none ∧
    (on.apply (.setHidden .tags keys)).columns.hidden.get .params = seed.get .params := by
  intro keys seed edits off on
  obtain ⟨along, turned, edited⟩ := columns_consistent_throughout
  refine ⟨?_, by decide, (turned off seed).1 rfl, by decide, (turned on seed).2.1 rfl, ?_, ?_, ?_⟩
  · exact fun t ht => DiffSwitch.consistent_iff.mpr (along initial edits (Or.inl rfl) t ht)
  · exact (edited on .tags keys).2.2.1 rfl
  · exact (edited off .tags keys).2.2.2.1 rfl
  · exact ((edited on .tags keys).2.2.2.2 .params (by decide)).1

end ViewState

end RunTable
