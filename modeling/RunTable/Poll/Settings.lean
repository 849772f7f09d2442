import RunTable.Number.Digits
import RunTable.Number.Width

/-!
Settings of polling that the environment may change: the interval in milliseconds, if it is given
as a positive number of 64 bits, and where to send a user whose resource is gone.
-/

namespace RunTable.Poll

/-- The settings of polling. -/
structure Settings where
  intervalMs : Nat
  redirect : String
  deriving DecidableEq

namespace Settings

def initial : Settings := ⟨10000, "/models"⟩

/-- The number of 64 bits that a text spells: digits, and perhaps a plus sign before them. -/
def natural64? (s : String) : Option Nat :=
  let unsigned := match s.toList with
    | '+' :: rest => rest
    | rest => rest
  match takeDigits unsigned with
  | (d :: ds, []) => if spelled (d :: ds) < wordLimit then some (spelled (d :: ds)) else none
  | _ => none

def ofEnvironment (interval redirect : Option String) : Settings where
  intervalMs := ((interval.bind natural64?).filter (0 < ·)).getD initial.intervalMs
  redirect := redirect.getD initial.redirect

end Settings

end RunTable.Poll
