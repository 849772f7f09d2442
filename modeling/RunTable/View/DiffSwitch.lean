import RunTable.HiddenKeys

/-!
The diff switch. A table can be shown in diff view, in which the columns that are the same in all
runs are hidden as well. What is hidden is kept three times: as it is shown now, as it was before
diff view was switched on, and as it was in diff view last. In a consistent state the first is one
of the other two, by the position of the switch.
-/

namespace RunTable

/-- What is hidden, with and without diff view. -/
structure DiffSwitch where
  /-- What is hidden now. -/
  hidden : HiddenKeys
  isOn : Bool
  /-- What is hidden while diff view is off. -/
  whileOff : HiddenKeys
  /-- What is hidden while diff view is on. -/
  whileOn : HiddenKeys
  deriving DecidableEq

namespace DiffSwitch

/-- Nothing is hidden, and diff view is off. -/
def initial : DiffSwitch := ⟨.none, false, .none, .none⟩

instance : Inhabited DiffSwitch := ⟨initial⟩

/-- Hides just the given names of a category, on the side of the switch that is active. -/
def setHidden (s : DiffSwitch) (c : Category) (keys : KeySet) : DiffSwitch :=
  if s.isOn then { s with hidden := s.hidden.set c keys, whileOn := s.whileOn.set c keys }
  else { s with hidden := s.hidden.set c keys, whileOff := s.whileOff.set c keys }

/-- Switches diff view on, hiding the constant columns beside those that are hidden already. -/
def turnOn (s : DiffSwitch) (constant : HiddenKeys) : DiffSwitch :=
  if s.isOn then s
  else
    let both := s.hidden.union constant
    ⟨both, true, s.hidden, both⟩

/-- Switches diff view off, so that what was hidden before it is hidden again. -/
def turnOff (s : DiffSwitch) : DiffSwitch :=
  if s.isOn then { s with hidden := s.whileOff, isOn := false } else s

/-- What the position of the switch says is hidden is what is hidden. -/
def Consistent (s : DiffSwitch) : Prop := s.hidden = if s.isOn then s.whileOn else s.whileOff

instance (s : DiffSwitch) : Decidable s.Consistent := inferInstanceAs (Decidable (_ = _))

end DiffSwitch

end RunTable
