import HexRules.Text.Numeral
import HexRules.Text.Quoted

/-!
# Log levels

The level of a record says how urgent it is; any integer will do. Some levels have names, two of
them two names. A level without a name is shown by its number.
-/

namespace HexRules.Log

/-- How urgent a record is. -/
structure Level where
  value : Int
  deriving DecidableEq, Repr

namespace Level

def notset : Level := ⟨0⟩

def debug : Level := ⟨10⟩

def info : Level := ⟨20⟩

def warning : Level := ⟨30⟩

/-- The levels under the names by which they are shown. -/
def named : List (String × Level) :=
  [("CRITICAL", ⟨50⟩), ("ERROR", ⟨40⟩), ("WARNING", warning), ("INFO", info), ("DEBUG", debug),
    ("NOTSET", notset)]

/-- Further names of levels. -/
def synonyms : List (String × Level) := [("FATAL", ⟨50⟩), ("WARN", warning)]

/-- How a level is shown. -/
def name (level : Level) : String :=
  match named.find? (·.2 = level) with
  | some entry => entry.1
  | none => String.join ["Level ", Text.Numeral.text level.value]

/-- The level with a name. -/
def ofName? (word : String) : Option Level := (named ++ synonyms).lookup word

end Level

end HexRules.Log
