import HexRules.Binary64
import HexRules.Text.Numeral

/-!
# Decimal notation of floating-point numbers

A number is written as digits with at most one point and an exponent of ten, or as `inf`,
`infinity` or `nan` in any case; a sign may stand in front. Spaces may stand at the ends. In a
text that is no number, single underscores are taken out of the inside, wherever they stand, and
it is read again; but then no spaces may be left.
-/

namespace HexRules.Binary64

open Text (isSpace trim)
open Text.Numeral (digitsValue dropUnderscores? isDigit signed splitSign)

/-- Reads the exponent part: nothing, or a letter e, a sign or none, and digits. -/
def readExponent : List Char → Option Int
  | [] => some 0
  | c :: cs =>
    let (negative, digits) := splitSign cs
    if (c = 'e' ∨ c = 'E') ∧ digits ≠ [] ∧ digits.all isDigit then
      some (signed negative (digitsValue digits))
    else none

/-- Reads digits with at most one point, and an exponent. -/
def readDecimal (negative : Bool) (cs : List Char) : Option Binary64 :=
  let whole := cs.takeWhile isDigit
  let rest := cs.dropWhile isDigit
  let (part, rest) :=
    match rest with
    | '.' :: after => (after.takeWhile isDigit, after.dropWhile isDigit)
    | _ => ([], rest)
  if whole.isEmpty && part.isEmpty then none
  else
    (readExponent rest).map fun e =>
      ofDecimal negative (digitsValue (whole ++ part)) (e - part.length)

/-- A number given by name. -/
def named? (negative : Bool) (cs : List Char) : Option Binary64 :=
  let word := cs.map Char.toLower
  if word = ['i', 'n', 'f'] ∨ word = ['i', 'n', 'f', 'i', 'n', 'i', 't', 'y'] then
    some (infinity negative)
  else if word = ['n', 'a', 'n'] then some nan
  else none

/-- Reads a number without spaces and underscores. -/
def readPlain? (cs : List Char) : Option Binary64 :=
  let (negative, body) := splitSign cs
  (named? negative body).or (readDecimal negative body)

/-- Reads a floating-point number. -/
def read? (cs : List Char) : Option Binary64 :=
  (readPlain? (trim isSpace cs)).or ((dropUnderscores? cs).bind readPlain?)

end HexRules.Binary64
