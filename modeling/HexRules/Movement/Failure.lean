import HexRules.Binary64
import HexRules.Text.Numeral

/-!
# Failures of movement

Moves come from numbers among the properties, and these may be of no use: a number that is not
finite cannot be reckoned with, and a number of too many digits cannot be shown, though it can be
reckoned with where nobody has to see it.

Results:
* `shown_eq_ok_iff`: a number is shown exactly if it has few enough digits, by its decimal text.
-/

namespace HexRules.Movement

open Binary64 (NonFinite)

/-- Why moves, or a part of them, cannot be computed. -/
inductive Failure
  /-- A rule reads a number that is not finite. -/
  | notFinite (e : NonFinite)
  /-- A number that has to be shown has too many digits. -/
  | tooLong
  deriving DecidableEq, Repr

/-- What is said of a failure. -/
def Failure.message : Failure → String
  | .notFinite e => e.message
  | .tooLong => Text.Numeral.tooLongMessage none

/-- The text of a number that has to be shown. -/
def shown (n : Int) : Except Failure String :=
  match Text.Numeral.text? n with
  | some s => .ok s
  | none => .error .tooLong

theorem shown_eq_ok_iff {n : Int} {s : String} :
    shown n = .ok s ↔ Text.Numeral.isShort n = true ∧ s = Text.Numeral.text n := by
  unfold shown Text.Numeral.text?
  by_cases h : Text.Numeral.isShort n = true
  · simp [h, eq_comm]
  · simp [h]

end HexRules.Movement
