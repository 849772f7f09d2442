import RunTable.Proofs.View.StoreRuns
import RunTable.Proofs.View.SwitchConsistency

/-! # Turning diff view on and off again

Turning diff view on puts away what is hidden, and while it is on nothing but
turning it off looks at what was put away. So the calls in between may edit
the columns as they like, and calls to other experiments may come at any time:
turning it off brings back what was hidden before. The next turn starts from
that again and finds no trace of the edits. -/

namespace RunTable

/-- Neither turns diff view off nor puts another state in place. -/
def StoreCall.keepsDiffOn : StoreCall → Bool
  | .toggleDiff _ | .restore _ | .dispatch .turnDiffOff | .dispatch .reset => false
  | _ => true

/-- Diff view is on, and these keys are put away. -/
structure DiffSwitch.PutsAway (s : DiffSwitch) (away : HiddenKeys) : Prop where
  isOn : s.isOn = true
  whileOff : s.whileOff = away

namespace DiffSwitch

variable {s : DiffSwitch} {away : HiddenKeys}

theorem putsAway_turnOn (h : s.isOn = false) (constant : HiddenKeys) :
    (s.turnOn constant).PutsAway s.hidden := by
  rw [turnOn_of_off h]
  exact ⟨rfl, rfl⟩

theorem PutsAway.turnOn (h : s.PutsAway away) (constant : HiddenKeys) :
    (s.turnOn constant).PutsAway away := by
  rw [turnOn_of_on h.isOn]
  exact h

theorem PutsAway.setHidden (h : s.PutsAway away) (c : Category) (keys : KeySet) :
    (s.setHidden c keys).PutsAway away := by
  rw [setHidden_of_on h.isOn]
  exact ⟨rfl, h.whileOff⟩

/-- Turning diff view off brings back what was put away. -/
theorem PutsAway.turnOff (h : s.PutsAway away) :
    s.turnOff = ⟨away, false, away, s.whileOn⟩ := by
  rw [turnOff_of_on h.isOn, h.whileOff]

end DiffSwitch

namespace ViewState

variable {s : ViewState} {away : HiddenKeys}

theorem putsAway_change (h : s.columns.PutsAway away) (constant : List Run → HiddenKeys)
    {c : StoreCall} (hc : c.keepsDiffOn = true) :
    (c.change constant s).columns.PutsAway away := by
  cases c with
  | dispatch a =>
    cases a with
    | setHidden c keys => exact h.setHidden c keys
    | turnDiffOn keys => exact h.turnOn keys
    | turnDiffOff | reset => cases hc
    | setSearch | setParamFilter | setMetricFilter | setStage | setSort | setLayout => exact h
  | setHidden c keys => exact h.setHidden c keys
  | toggleDiff | restore => cases hc

theorem putsAway_foldl (h : s.columns.PutsAway away) (constant : List Run → HiddenKeys)
    {calls : List StoreCall} (hcalls : ∀ c ∈ calls, c.keepsDiffOn = true) :
    (calls.foldl (StoreCall.change constant) s).columns.PutsAway away := by
  induction calls generalizing s with
  | nil => exact h
  | cons c calls ih =>
    obtain ⟨hc, hcalls⟩ := List.forall_mem_cons.mp hcalls
    exact ih (putsAway_change h constant hc) hcalls

end ViewState

namespace Store

variable {s : Store} {e : String}

theorem constant_toggleDiff (s : Store) (e : String) (runs : List Run) :
    (s.toggleDiff e runs).constant = s.constant := constant_call s e (.toggleDiff runs)

theorem columns_toggleDiff_of_off (h : (s.state e).columns.isOn = false) (runs : List Run) :
    ((s.toggleDiff e runs).state e).columns = (s.state e).columns.turnOn (s.constant runs) := by
  show ((s.call e (.toggleDiff runs)).state e).columns = _
  rw [state_call, if_pos rfl, StoreCall.change, h]
  rfl

theorem columns_toggleDiff_of_on (h : (s.state e).columns.isOn = true) (runs : List Run) :
    ((s.toggleDiff e runs).state e).columns = (s.state e).columns.turnOff := by
  show ((s.call e (.toggleDiff runs)).state e).columns = _
  rw [state_call, if_pos rfl, StoreCall.change, h]
  rfl

/-- Calls to other experiments are not noticed. -/
theorem state_run_of_ne {calls : List (String × StoreCall)} (h : ∀ c ∈ calls, c.1 ≠ e) :
    (s.run calls).state e = s.state e := by
  have hnone : callsTo e calls = [] := by
    refine List.eq_nil_iff_forall_not_mem.mpr fun c hc => ?_
    exact h (e, c) (mem_callsTo.mp hc) rfl
  rw [state_run, hnone]
  rfl

/-- **Diff view is turned off without a trace.** What is hidden is then what
was hidden before it was turned on, whatever was edited in between, and the
state is consistent even if it was not. If it is turned on again for the same
runs, all copies are what the first turn made of them. -/
theorem toggleDiff_twice (s : Store) (e : String) (runs runs' : List Run)
    (between others : List (String × StoreCall))
    (hoff : (s.state e).columns.isOn = false)
    (hbetween : ∀ c, (e, c) ∈ between → c.keepsDiffOn = true)
    (hothers : ∀ c ∈ others, c.1 ≠ e) :
    let first := s.toggleDiff e runs
    let second := (first.run between).toggleDiff e runs'
    let third := (second.run others).toggleDiff e runs
    (first.state e).columns.isOn = true ∧
    (second.state e).columns.hidden = (s.state e).columns.hidden ∧
    (second.state e).columns.isOn = false ∧
    (second.state e).columns.Consistent ∧
    (third.state e).columns = (first.state e).columns := by
  intro first second third
  have hfirst : (first.state e).columns = (s.state e).columns.turnOn (s.constant runs) :=
    columns_toggleDiff_of_off hoff runs
  have haway : (first.state e).columns.PutsAway (s.state e).columns.hidden :=
    hfirst ▸ DiffSwitch.putsAway_turnOn hoff _
  -- Of the edits nothing is known but that they leave alone what is put away.
  have hedited : ((first.run between).state e).columns.PutsAway (s.state e).columns.hidden := by
    rw [state_run]
    exact ViewState.putsAway_foldl haway _ fun c hc => hbetween c (mem_callsTo.mp hc)
  have hsecond : (second.state e).columns = ⟨(s.state e).columns.hidden, false,
      (s.state e).columns.hidden, ((first.run between).state e).columns.whileOn⟩ :=
    (columns_toggleDiff_of_on hedited.isOn runs').trans hedited.turnOff
  have hconstant : (second.run others).constant = s.constant := by
    rw [constant_run, constant_toggleDiff, constant_run, constant_toggleDiff]
  have hstill : ((second.run others).state e).columns = (second.state e).columns := by
    rw [state_run_of_ne hothers]
  have hthird : (third.state e).columns =
      (second.state e).columns.turnOn (s.constant runs) := by
    have hoff' : ((second.run others).state e).columns.isOn = false := by
      rw [hstill, hsecond]
    rw [columns_toggleDiff_of_off hoff' runs, hstill, hconstant]
  refine ⟨haway.isOn, by rw [hsecond], by rw [hsecond], by rw [hsecond]; rfl, ?_⟩
  rw [hthird, hfirst, hsecond, DiffSwitch.turnOn_of_off rfl, DiffSwitch.turnOn_of_off hoff]

/-- From an inconsistent state, with edits and calls to another experiment. -/
theorem toggleDiff_twice_inconsistent :
    let seed := HiddenKeys.none.set .params (.ofList ["seed"])
    let odd : ViewState := { ViewState.initial with columns := ⟨seed, false, .none, .none⟩ }
    let s := (empty fun _ => HiddenKeys.none.set .tags (.ofList ["team"])).restore "a" odd
    let between : List (String × StoreCall) :=
      [("a", .setHidden .params .empty), ("b", .toggleDiff []), ("a", .dispatch (.turnDiffOn seed)),
        ("a", .dispatch (.setSearch "x")), ("b", .restore odd)]
    let others : List (String × StoreCall) := [("b", .toggleDiff [])]
    let second := ((s.toggleDiff "a" []).run between).toggleDiff "a" []
    ¬ (s.state "a").columns.Consistent ∧ (s.state "a").columns.isOn = false ∧
    (∀ c, ("a", c) ∈ between → c.keepsDiffOn = true) ∧ (∀ c ∈ others, c.1 ≠ "a") ∧
    (second.state "a").columns.hidden = seed ∧ (second.state "a").columns.Consistent ∧
    (((second.run others).toggleDiff "a" []).state "a").columns =
      ((s.toggleDiff "a" []).state "a").columns := by
  intro seed odd s between others
  have hbetween : ∀ c, ("a", c) ∈ between → c.keepsDiffOn = true := by
    intro c hc
    simp only [between, List.mem_cons, Prod.mk.injEq, true_and, List.not_mem_nil] at hc
    rcases hc with rfl | ⟨hb, _⟩ | rfl | rfl | ⟨hb, _⟩ | hnil
    · rfl
    · exact absurd hb (by decide)
    · rfl
    · rfl
    · exact absurd hb (by decide)
    · exact hnil.elim
  have hothers : ∀ c ∈ others, c.1 ≠ "a" := by
    intro c hc
    obtain rfl := List.mem_singleton.mp hc
    decide
  have hstate : s.state "a" = odd := by
    show ((empty _).call "a" (.restore odd)).state "a" = odd
    rw [state_call, if_pos rfl]
    rfl
  have hodd : ¬ (s.state "a").columns.Consistent := by
    rw [hstate]
    decide
  have hoff : (s.state "a").columns.isOn = false := by rw [hstate]
  obtain ⟨_, hhidden, _, hconsistent, hagain⟩ :=
    toggleDiff_twice s "a" [] [] between others hoff hbetween hothers
  rw [hstate] at hhidden
  exact ⟨hodd, hoff, hbetween, hothers, hhidden, hconsistent, hagain⟩

end Store

end RunTable
