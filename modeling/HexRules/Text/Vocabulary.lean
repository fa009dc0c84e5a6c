import HexRules.Text.Quoted

/-!
# Words outside a vocabulary

The named choices of a document (kinds, roles, triggers, operators) form small vocabularies. A
word that a vocabulary lacks is refused with a message that quotes it.
-/

namespace HexRules

/-- A word that is not in the vocabulary. -/
structure UnknownWord where
  vocabulary : String
  word : String
  deriving DecidableEq, Repr

/-- The complaint about a word. -/
def UnknownWord.message (e : UnknownWord) : String :=
  s!"{Text.quote e.word} is not a valid {e.vocabulary}"

/-- What was found for a word, or the complaint. -/
def UnknownWord.orElse {α : Type} (vocabulary word : String) :
    Option α → Except UnknownWord α
  | some a => .ok a
  | none => .error ⟨vocabulary, word⟩

end HexRules
