import HexRules.Text.Digit
import HexRules.Text.Printable

/-!
# Quoted text

A message quotes a name so that it stays on one line and its ends can be seen. The quotation mark
is the apostrophe, unless the text holds apostrophes and no double quotation mark. The mark in use
and the backslash get a backslash, tabs and line ends are named, and what is not printable is
written by number.
-/

namespace HexRules.Text

/-- The apostrophe. -/
def apostrophe : Char := '\x27'

/-- The double quotation mark. -/
def doubleQuote : Char := '\x22'

/-- The backslash. -/
def backslash : Char := '\x5c'

/-- The mark that encloses the quoted text. -/
def quoteMark (cs : List Char) : Char :=
  if cs.contains apostrophe && !cs.contains doubleQuote then doubleQuote else apostrophe

/-- A character by number: two hexadecimal digits, or four, or eight. -/
def escapeByNumber (c : Char) : List Char :=
  let n := c.toNat
  if n < 0x100 then backslash :: 'x' :: hexDigits 2 n
  else if n < 0x10000 then backslash :: 'u' :: hexDigits 4 n
  else backslash :: 'U' :: hexDigits 8 n

/-- One character inside the marks. -/
def quoteChar (mark c : Char) : List Char :=
  if c = mark ∨ c = backslash then [backslash, c]
  else if c = '\t' then [backslash, 't']
  else if c = '\n' then [backslash, 'n']
  else if c = '\r' then [backslash, 'r']
  else if isPrintable c then [c]
  else escapeByNumber c

/-- The text between quotation marks. -/
def quoteChars (cs : List Char) : List Char :=
  let mark := quoteMark cs
  mark :: (cs.flatMap (quoteChar mark) ++ [mark])

/-- The text between quotation marks. -/
def quote (s : String) : String := String.ofList (quoteChars s.toList)

end HexRules.Text
