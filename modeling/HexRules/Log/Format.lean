import HexRules.Log.Level
import HexRules.Text.Alphanumeric

/-!
# Formats of records

A format is a text with fields such as `%(message)s`, in whose places the parts of a record are
put. A format without any field is refused. In a field, the word in brackets is followed by
flags, a width, a precision and the letter of a conversion, all but the letter optional. Words and
numbers may be of any script, and letters of either case.
-/

namespace HexRules.Log

/-- What is written to a log. -/
structure Record where
  logger : String
  level : Level
  text : String
  deriving DecidableEq, Repr

namespace Format

/-- Whether a character may stand in the word of a field. -/
def isWordChar (c : Char) : Bool := Text.isAlphanumeric c || c == '_'

/-- Whether a character may stand in a width or a precision. -/
def isDigit (c : Char) : Bool := (Text.digit? c).isSome

/-- The flags of a conversion. -/
def flags : List Char := ['#', '0', '+', ' ', '-']

/-- The letters of conversions, in lower case; among them three other forms of i and s: I with a
    dot, i without a dot, and long s. -/
def conversions : List Char :=
  ['d', 'i', 'o', 'u', 'x', 'e', 'f', 'g', 'c', 'r', 's', 'a', '%', '\u0130', '\u0131', '\u017f']

/-- What follows a number or an asterisk. -/
def skipNumber : List Char → List Char
  | '*' :: cs => cs
  | cs => cs.dropWhile isDigit

/-- What follows a point with a number or an asterisk. -/
def skipPrecision : List Char → List Char
  | '.' :: cs =>
    match cs with
    | '*' :: rest => rest
    | c :: rest => if isDigit c then rest.dropWhile isDigit else '.' :: c :: rest
    | [] => ['.']
  | cs => cs

/-- Whether the text goes on with flags, width, precision and the letter of a conversion. -/
def startsWithConversion (cs : List Char) : Bool :=
  match skipPrecision (skipNumber (cs.dropWhile flags.contains)) with
  | c :: _ => conversions.contains c.toLower
  | [] => false

/-- Whether the text begins with a field. -/
def startsWithField : List Char → Bool
  | '%' :: '(' :: cs =>
    match cs.dropWhile isWordChar with
    | ')' :: rest => !(cs.takeWhile isWordChar).isEmpty && startsWithConversion rest
    | _ => false
  | _ => false

/-- Whether there is a field somewhere in the text. -/
def hasField : List Char → Bool
  | [] => false
  | c :: cs => startsWithField (c :: cs) || hasField cs

end Format

/-- How records are written. -/
structure Format where
  template : String
  deriving DecidableEq, Repr

namespace Format

/-- The message alone. -/
def plain : Format := ⟨"%(message)s"⟩

/-- The format of loggers that are set up without one. -/
def standard : Format := ⟨"%(asctime)s - %(name)s - %(levelname)s - %(message)s"⟩

/-- The format with a template; without one it is the message alone. -/
def ofTemplate? (template : String) : Option Format :=
  if template = "" then some plain
  else if hasField template.toList then some ⟨template⟩
  else none

/-- The fields that are filled, with what they are filled with. -/
def fields (r : Record) : List (List Char × List Char) :=
  [("%(name)s".toList, r.logger.toList), ("%(levelname)s".toList, r.level.name.toList),
    ("%(message)s".toList, r.text.toList), ("%%".toList, ['%'])]

/-- Fills the fields of a template from left to right; the number is that of characters yet to
    be passed over. -/
def fill (fields : List (List Char × List Char)) : Nat → List Char → List Char
  | _, [] => []
  | skip + 1, _ :: cs => fill fields skip cs
  | 0, c :: cs =>
    match fields.find? fun entry => entry.1.isPrefixOf (c :: cs) with
    | some entry => entry.2 ++ fill fields (entry.1.length - 1) cs
    | none => c :: fill fields 0 cs

/-- A record on a line. -/
def line (format : Format) (r : Record) : String :=
  String.ofList (fill (fields r) 0 format.template.toList ++ ['\n'])

end Format

end HexRules.Log
