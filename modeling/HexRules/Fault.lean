import HexRules.Ident
import HexRules.Table
import HexRules.Text.Numeral

/-!
# Faults

Misuse of a registry or of a setting is a fault: a code for machines, a message for people, and a
context of named details. `Fault.text` shows all three on one line.

A fault is built from its cause. The cause decides the code, unless a code is given, and adds
what it knows to the context.
-/

namespace HexRules

/-- A detail in the context of a fault. -/
inductive Detail
  | none
  | bool (b : Bool)
  | int (n : Int)
  | text (s : String)
  deriving DecidableEq, Repr

/-- How a detail is shown. -/
def Detail.show : Detail → String
  | .none => "None"
  | .bool true => "True"
  | .bool false => "False"
  | .int n => Text.Numeral.text n
  | .text s => s

/-- The details of a fault, by name. -/
abbrev Context := Table String Detail

/-- What went wrong, with its particulars. -/
inductive Cause
  | general (code : Option String)
  | registry (code : Option String)
  /-- An identifier names nothing of the kind that was looked up. -/
  | unknownReference (kind : Option String) (reference : Detail)
  /-- An identifier is in use already. -/
  | duplicateIdentifier (reference : Detail)
  | configuration (setting : Option String)
  deriving DecidableEq, Repr

namespace Cause

/-- A word that is given and not empty. -/
def stated (word : Option String) : Option String := word.filter (· != "")

/-- The code of a fault with this cause. -/
def code : Cause → String
  | .general code => (stated code).getD "HEXORDER_ERROR"
  | .registry code => (stated code).getD "REGISTRY_ERROR"
  | .unknownReference _ _ => "UNKNOWN_REFERENCE"
  | .duplicateIdentifier _ => "DUPLICATE_IDENTIFIER"
  | .configuration _ => "CONFIGURATION_ERROR"

/-- Whether the fault concerns a registry. -/
def concernsRegistry : Cause → Bool
  | .registry _ => true
  | .unknownReference _ _ => true
  | .duplicateIdentifier _ => true
  | _ => false

/-- Adds a word to the context under a name, if the word is stated. -/
def addWord (name : String) (word : Option String) (context : Context) : Context :=
  match stated word with
  | some w => context.insert name (.text w)
  | none => context

/-- Adds a reference to the context, as text, if there is one. -/
def addReference (reference : Detail) (context : Context) : Context :=
  match reference with
  | .none => context
  | detail => context.insert "reference_id" (.text detail.show)

/-- The context with what the cause adds to it. -/
def extend : Cause → Context → Context
  | .general _, context => context
  | .registry _, context => context
  | .unknownReference kind reference, context =>
    addReference reference (addWord "kind" kind context)
  | .duplicateIdentifier reference, context => addReference reference context
  | .configuration setting, context => addWord "setting" setting context

/-- What becomes of a context that was handed over with the cause: the fault goes on with it and
    writes its own details into it, unless it had no entries. -/
def handedBack (cause : Cause) (context : Context) : Context :=
  if context.size = 0 then context else cause.extend context

end Cause

/-- A misuse of a registry or of a setting. -/
structure Fault where
  code : String
  message : String
  context : Context

namespace Fault

/-- The fault with a cause and a message, and a context to start from. -/
def ofCause (cause : Cause) (message : String) (context : Context) : Fault :=
  ⟨cause.code, message, cause.extend context⟩

/-- The context on one line. -/
def contextText (context : Context) : String :=
  String.intercalate ", "
    (context.entries.map fun entry => String.join [entry.1, "=", entry.2.show])

/-- The fault on one line. -/
def text (f : Fault) : String :=
  if f.context.size = 0 then String.join ["[", f.code, "] ", f.message]
  else String.join ["[", f.code, "] ", f.message, " (", contextText f.context, ")"]

end Fault

end HexRules
