import HexRules.Fault
import HexRules.Text.Quoted
import HexRules.Text.Space
import HexRules.Text.UpperCase

/-!
# Settings

Settings come from an environment of named texts. An integer setting that is absent or blank has
its default; any other text must spell an integer that is not below the minimum. A switch that is
absent has its default; any other text turns it on when it is one of four words, and off
otherwise.
-/

namespace HexRules

/-- Why a setting is refused. -/
inductive SettingError
  | notInteger (name raw : String)
  | belowMinimum (name : String) (minimum value : Int)
  deriving DecidableEq, Repr

namespace SettingError

/-- The complaint about a setting. -/
def message : SettingError → String
  | .notInteger name raw => String.join [name, " must be an integer, got ", Text.quote raw]
  | .belowMinimum name minimum value =>
    String.join [name, " must be >= ", Text.Numeral.text minimum, ", got ",
      Text.Numeral.text value]

/-- The setting that is refused. -/
def setting : SettingError → String
  | .notInteger name _ => name
  | .belowMinimum name _ _ => name

/-- The complaint about a setting as a fault. -/
def fault (e : SettingError) : Fault :=
  .ofCause (.configuration (some e.setting)) e.message .empty

end SettingError

namespace Settings

/-- Refuses a value below the minimum, where there is one. -/
def checkMinimum (name : String) (minimum : Option Int) (value : Int) : Except SettingError Int :=
  match minimum with
  | some m => if value < m then .error (.belowMinimum name m value) else .ok value
  | none => .ok value

/-- An integer setting. -/
def readInt (name : String) (default : Int) (minimum : Option Int) :
    Option String → Except SettingError Int
  | none => .ok default
  | some raw =>
    if raw.toList.all Text.isBlank then .ok default
    else
      match Text.Numeral.read raw.toList with
      | .ok value => checkMinimum name minimum value
      | .error _ => .error (.notInteger name raw)

/-- The words that turn a switch on. -/
def onWords : List String := ["1", "true", "yes", "on"]

/-- A switch. The words have ASCII letters only, and no other letter has one of them as its
    lower case, so lower case may be taken in ASCII. -/
def readBool (default : Bool) : Option String → Bool
  | none => default
  | some raw =>
    onWords.contains (String.ofList ((Text.trim Text.isBlank raw.toList).map Char.toLower))

end Settings

/-- The settings of the rules engine. -/
structure Settings where
  /-- The movement budget for every registered concept, where no other budget is known. -/
  fallbackPerConcept : Int
  /-- The level of loggers that are set up without one. -/
  logLevel : String
  /-- Whether counters count. -/
  metricsEnabled : Bool
  deriving DecidableEq, Repr

namespace Settings

/-- The settings of an empty environment. -/
def default : Settings := ⟨10, "INFO", true⟩

/-- Reads the settings from an environment. -/
def load (env : String → Option String) : Except SettingError Settings := do
  let name := "HEXORDER_FALLBACK_BUDGET_PER_CONCEPT"
  let fallback ← readInt name 10 (some 0) (env name)
  return {
    fallbackPerConcept := fallback
    logLevel := Text.upper ((env "HEXORDER_LOG_LEVEL").getD "INFO")
    metricsEnabled := readBool true (env "HEXORDER_METRICS_ENABLED") }

end Settings

end HexRules
