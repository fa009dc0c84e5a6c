/-!
# Issues of a document

When a document does not describe what it should, every defect is reported with the path that
leads to it. `Defect.code` is the word by which a defect is reported.
-/

namespace HexRules

/-- One step down a document: into a field, or to an item of a list. -/
inductive Step
  | field (name : String)
  | index (i : Nat)
  deriving DecidableEq, Repr

/-- What can be wrong with a part of a document. -/
inductive Defect
  /-- A field without default is absent. -/
  | missing
  /-- Something else stands where an object is expected. -/
  | notObject
  /-- Something else stands where an object with a tag is expected. -/
  | notTagged
  /-- The object has no tag. -/
  | tagAbsent
  /-- The tag is none of the known ones. -/
  | tagUnknown
  /-- The tag is another one than the only one allowed here. -/
  | tagOther
  | notText
  /-- Text or an integer that spells no truth value. -/
  | boolUnreadable
  | notBool
  /-- Text that spells no integer. -/
  | intUnreadable
  /-- An integer of too many digits, or too large a number without fraction. -/
  | intTooLarge
  /-- A number with a fraction where an integer is expected. -/
  | fractional
  /-- An infinite number or NaN where an integer is expected. -/
  | unbounded
  | notInt
  /-- Text that spells no number. -/
  | floatUnreadable
  | notFloat
  /-- Text that spells no identifier. -/
  | idUnreadable
  | notId
  /-- The value is none of the listed ones. -/
  | notListed
  | notList
  /-- Something else stands where an object used as a table is expected. -/
  | notTable
  /-- The number is below its bound. -/
  | tooSmall
  /-- The number is above its bound, or NaN. -/
  | tooLarge
  /-- Formulas stand one inside the other at too many levels. -/
  | tooDeep
  deriving DecidableEq, Repr

/-- The word for a defect. -/
def Defect.code : Defect → String
  | .missing => "missing"
  | .notObject => "model_type"
  | .notTagged => "model_attributes_type"
  | .tagAbsent => "union_tag_not_found"
  | .tagUnknown => "union_tag_invalid"
  | .tagOther => "literal_error"
  | .notText => "string_type"
  | .boolUnreadable => "bool_parsing"
  | .notBool => "bool_type"
  | .intUnreadable => "int_parsing"
  | .intTooLarge => "int_parsing_size"
  | .fractional => "int_from_float"
  | .unbounded => "finite_number"
  | .notInt => "int_type"
  | .floatUnreadable => "float_parsing"
  | .notFloat => "float_type"
  | .idUnreadable => "uuid_parsing"
  | .notId => "uuid_type"
  | .notListed => "enum"
  | .notList => "list_type"
  | .notTable => "dict_type"
  | .tooSmall => "greater_than_equal"
  | .tooLarge => "less_than_equal"
  | .tooDeep => "recursion_depth_exceeded"

/-- A defect, and the path to it from the top of the document. -/
structure Issue where
  path : List Step
  defect : Defect
  deriving DecidableEq, Repr

/-- The issue, seen from one step further up. -/
def Issue.under (step : Step) (issue : Issue) : Issue := { issue with path := step :: issue.path }

end HexRules
