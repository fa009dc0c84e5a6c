import HexRules.Text.Digit
import HexRules.Text.Space

/-!
# Numerals

Integers as decimal text. `write` gives the one spelling that is printed; `text?` gives it only if
it has no more than `maxDigits` digits. Two readers take more spellings than that, though no
numeral of more than `maxDigits` digits.

`read`, for keys and settings, takes decimal digits of any script, spaces at the ends, a sign in
front, and a single underscore between two digits.

`readIntegral`, for values of a document, takes the digits `0` to `9`. A text that is no plain
numeral is tidied, and read again: spaces at the ends, a plus in front, leading zeros, a fraction
of zeros, and single underscores go. Leading zeros may have underscores among them and a minus
behind them.
-/

namespace HexRules.Text.Numeral

/-- The decimal text of an integer. -/
def write : Int → List Char
  | .ofNat n => Nat.toDigits 10 n
  | .negSucc n => '-' :: Nat.toDigits 10 (n + 1)

/-- The decimal text of an integer. -/
def text (n : Int) : String := String.ofList (write n)

/-- The greatest number of digits that are taken or shown. -/
def maxDigits : Nat := 4300

/-- Whether an integer has few enough digits to be shown. -/
def isShort (n : Int) : Bool := decide ((Nat.toDigits 10 n.natAbs).length ≤ maxDigits)

/-- The decimal text of an integer that has few enough digits. -/
def text? (n : Int) : Option String := if isShort n then some (text n) else none

/-- The complaint that a numeral has too many digits. The number of digits is told where it was
    counted. -/
def tooLongMessage (digits : Option Nat) : String :=
  String.join ["Exceeds the limit (", text maxDigits, " digits) for integer string conversion",
    match digits with
    | some n => String.join [": value has ", text n, " digits"]
    | none => "",
    "; use sys.set_int_max_str_digits() to increase the limit"]

/-- Why a text is not read as an integer. -/
inductive Unreadable
  /-- It is no numeral. -/
  | malformed
  /-- It is a numeral of more digits than are taken. -/
  | tooLong (digits : Nat)
  deriving DecidableEq, Repr

/-- Takes a sign off the front, and says whether it was a minus. -/
def splitSign : List Char → Bool × List Char
  | '-' :: cs => (true, cs)
  | '+' :: cs => (false, cs)
  | cs => (false, cs)

/-- The number with a minus in front, if there is one. -/
def signed (negative : Bool) (n : Nat) : Int := if negative then -(n : Int) else (n : Int)

/-! ## Digits of any script -/

/-- Reads on after a digit: the end, another digit, or an underscore and another digit. -/
def readRest : Nat → List Char → Option Nat
  | value, [] => some value
  | value, '_' :: c :: cs =>
    match digit? c with
    | some d => readRest (10 * value + d) cs
    | none => none
  | value, c :: cs =>
    match digit? c with
    | some d => readRest (10 * value + d) cs
    | none => none

/-- Reads a numeral without sign. -/
def readNat : List Char → Option Nat
  | [] => none
  | c :: cs =>
    match digit? c with
    | some d => readRest d cs
    | none => none

/-- Whether the character is a digit of any script or an underscore. -/
def isNumeralChar (c : Char) : Bool := (digit? c).isSome || c == '_'

/-- The number of digits, underscores apart. -/
def countDigits (cs : List Char) : Nat := cs.countP (· != '_')

/-- Reads a numeral without sign. What stands before the first other character has to be a
    numeral, and short enough, before that other character counts. -/
def readShort (cs : List Char) : Except Unreadable Nat :=
  let numeral := cs.takeWhile isNumeralChar
  match readNat numeral with
  | none => .error .malformed
  | some n =>
    if maxDigits < countDigits numeral then .error (.tooLong (countDigits numeral))
    else if numeral.length < cs.length then .error .malformed
    else .ok n

/-- Reads an integer in decimal digits of any script. -/
def read (cs : List Char) : Except Unreadable Int :=
  let (negative, body) := splitSign (trim isSpace cs)
  (readShort body).map (signed negative)

/-! ## Plain numerals -/

/-- Whether the character is one of `0` to `9`. -/
def isDigit (c : Char) : Bool := (asciiDigit? c).isSome

/-- The value of a string of digits. -/
def digitsValue (cs : List Char) : Nat :=
  cs.foldl (fun n c => 10 * n + (asciiDigit? c).getD 0) 0

/-- Reads digits without leading zeros. A text that begins with too many digits is too long,
    whatever follows. -/
def readPlainNat (cs : List Char) : Except Unreadable Nat :=
  match cs.takeWhile isDigit with
  | [] => .error .malformed
  | '0' :: _ :: _ => .error .malformed
  | digits =>
    if maxDigits < digits.length then .error (.tooLong digits.length)
    else if digits.length < cs.length then .error .malformed
    else .ok (digitsValue digits)

/-- Reads a plain numeral: digits without leading zeros, after a minus or not. -/
def readPlain : List Char → Except Unreadable Int
  | '-' :: cs => (readPlainNat cs).map (signed true)
  | cs => (readPlainNat cs).map (signed false)

/-! ## Tidying -/

/-- Whether two underscores stand side by side. -/
def hasTwoUnderscores : List Char → Bool
  | '_' :: '_' :: _ => true
  | _ :: cs => hasTwoUnderscores cs
  | [] => false

/-- Takes out the underscores, none of which may stand at an end or beside another one. -/
def dropUnderscores? (cs : List Char) : Option (List Char) :=
  if cs.head? = some '_' ∨ cs.getLast? = some '_' ∨ hasTwoUnderscores cs then none
  else some (cs.filter (· != '_'))

/-- Whether the character may follow leading zeros: a digit or a minus. -/
def isLeading (c : Char) : Bool := isDigit c || c == '-'

/-- Goes on after leading zeros, of whose characters `last` is the last. The text from the first
    digit or minus on is kept; before a point, and at the end, the last character is kept too. -/
def dropMoreZeros (last : Char) : List Char → Option (List Char)
  | [] => some [last]
  | c :: cs =>
    if c = '0' ∨ c = '_' then dropMoreZeros c cs
    else if c = '.' then some (last :: c :: cs)
    else if isLeading c then some (c :: cs)
    else none

/-- Takes leading zeros off. -/
def dropZeros? : List Char → Option (List Char)
  | [] => none
  | c :: cs =>
    if c = '0' then dropMoreZeros c cs
    else if isLeading c then some (c :: cs)
    else none

/-- Takes off a fraction of zeros, at least one. -/
def dropFraction (cs : List Char) : List Char :=
  match cs.dropWhile (· != '.') with
  | '.' :: zero :: zeros =>
    if (zero :: zeros).all (· == '0') then cs.takeWhile (· != '.') else cs
  | _ => cs

/-- Tidies a numeral without sign. Underscores that are misplaced stay. -/
def tidyNat? (cs : List Char) : Option (List Char) :=
  (dropZeros? cs).map fun cs =>
    let cs := dropFraction cs
    (dropUnderscores? cs).getD cs

/-- Tidies a numeral. -/
def tidy? (cs : List Char) : Option (List Char) :=
  match trim isSpace cs with
  | '-' :: body => (tidyNat? body).map ('-' :: ·)
  | '+' :: '-' :: _ => none
  | '+' :: body => tidyNat? body
  | body => tidyNat? body

/-- Reads an integer in the digits `0` to `9`. Only the text as it was given can be too long. -/
def readIntegral (cs : List Char) : Except Unreadable Int :=
  match readPlain cs with
  | .ok n => .ok n
  | .error (.tooLong digits) => .error (.tooLong digits)
  | .error .malformed =>
    match (tidy? cs).map readPlain with
    | some (.ok n) => .ok n
    | _ => .error .malformed

end HexRules.Text.Numeral
