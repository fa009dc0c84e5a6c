import HexRules.Binary64.Decimal
import HexRules.Document
import HexRules.Document.Issue

/-!
# Reading documents

A `Decode α` reads an `α`, or reports every issue, not just the first. Readers are put together
as an applicative functor: `f <$> x <*> y` runs both readers and appends their issues, in order.
A reader may mint fresh identifiers, for objects that come without one; it takes them from a
supply in the order in which it runs. `Decode.run` gives the supply back untouched when reading
fails.

Simple values are read leniently. A truth value may be given as a number or a word, a number as
text, an integer as a number without fraction of less than 2 ^ 63; an identifier or a text may
not be given as anything else.
-/

namespace HexRules

/-- A reader: from a supply of identifiers to a value or issues, and the rest of the supply. -/
def Decode (α : Type) : Type := Supply → Except (List Issue) α × Supply

namespace Decode

variable {α β : Type}

/-- A function's outcome applied to an argument's outcome; all issues count. -/
def combine : Except (List Issue) (α → β) → Except (List Issue) α → Except (List Issue) β
  | .ok f, .ok a => .ok (f a)
  | .ok _, .error issues => .error issues
  | .error issues, .ok _ => .error issues
  | .error issues, .error more => .error (issues ++ more)

instance : Applicative Decode where
  pure a := fun supply => (.ok a, supply)
  map f x := fun supply =>
    let (a, supply) := x supply
    (a.map f, supply)
  seq f x := fun supply =>
    let (g, supply) := f supply
    let (a, supply) := x () supply
    (combine g a, supply)

/-- Reads a value. On issues the supply stays as it was. -/
def run (x : Decode α) (supply : Supply) : Except (List Issue) (α × Supply) :=
  match x supply with
  | (.ok a, rest) => .ok (a, rest)
  | (.error issues, _) => .error issues

/-- Reports a defect of the document at hand. -/
def fail (defect : Defect) : Decode α := fun supply => (.error [⟨[], defect⟩], supply)

/-- Reads something one step further down. -/
def under (step : Step) (x : Decode α) : Decode α := fun supply =>
  let (a, supply) := x supply
  (a.mapError (·.map (Issue.under step)), supply)

/-- Reads a value that must pass a test. -/
def check (x : Decode α) (test : α → Option Defect) : Decode α := fun supply =>
  match x supply with
  | (.ok a, supply) =>
    match test a with
    | none => (.ok a, supply)
    | some defect => fail defect supply
  | (.error issues, supply) => (.error issues, supply)

/-- Mints a fresh identifier. -/
def fresh : Decode Ident := fun supply =>
  let (id, supply) := supply.mint
  (.ok id, supply)

/-- Takes what was read, or reports the defect. -/
def orFail (defect : Defect) : Option α → Decode α
  | some a => pure a
  | none => fail defect

/-! ## Simple values -/

/-- Text. -/
def text : Document → Decode String
  | .text s => pure s
  | _ => fail .notText

/-- The words for true and false. -/
def boolWord? (cs : List Char) : Option Bool :=
  let word := String.ofList (cs.map Char.toLower)
  if ["1", "on", "t", "true", "y", "yes"].contains word then some true
  else if ["0", "off", "f", "false", "n", "no"].contains word then some false
  else none

/-- The numbers for true and false. -/
def boolNumber? (n : Int) : Option Bool :=
  if n = 1 then some true else if n = 0 then some false else none

/-- A number without fraction as an integer, if it is of less than 2 ^ 63. -/
def whole? (x : Binary64) : Option Int :=
  if x.isFinite && x.isIntegral && x.truncate.natAbs < Nat.pow 2 63 then some x.truncate else none

/-- A truth value, as itself, a number or a word. An integer has to fit in 64 bits to be taken for
    a number at all. -/
def bool : Document → Decode Bool
  | .bool b => pure b
  | .int n =>
    if -Int.pow 2 63 ≤ n ∧ n < Int.pow 2 63 then orFail .boolUnreadable (boolNumber? n)
    else fail .notBool
  | .float x =>
    match whole? x with
    | some n => orFail .boolUnreadable (boolNumber? n)
    | none => fail .notBool
  | .text s => orFail .boolUnreadable (boolWord? s.toList)
  | _ => fail .notBool

/-- The defect of a text that is no integer. -/
def unreadableInt : Text.Numeral.Unreadable → Defect
  | .malformed => .intUnreadable
  | .tooLong _ => .intTooLarge

/-- An integer, as itself, a truth value, a number without fraction or text. -/
def int : Document → Decode Int
  | .int n => pure n
  | .bool b => pure (if b then 1 else 0)
  | .float x =>
    if !x.isFinite then fail .unbounded
    else if !x.isIntegral then fail .fractional
    else orFail .intTooLarge (whole? x)
  | .text s =>
    match Text.Numeral.readIntegral s.toList with
    | .ok n => pure n
    | .error e => fail (unreadableInt e)
  | _ => fail .notInt

/-- A floating-point number, as itself, an integer in its range, a truth value or text. -/
def float : Document → Decode Binary64
  | .float x => pure x
  | .int n => let x := Binary64.ofInt n; if x.isFinite then pure x else fail .notFloat
  | .bool b => pure (if b then .one else .zero)
  | .text s => orFail .floatUnreadable (Binary64.read? s.toList)
  | _ => fail .notFloat

/-- An identifier, as text. -/
def ident : Document → Decode Ident
  | .text s => orFail .idUnreadable (Ident.parse? s)
  | _ => fail .notId

/-- One of the values that have a name. -/
def named (ofName? : String → Option α) : Document → Decode α
  | .text s => orFail .notListed (ofName? s)
  | _ => fail .notListed

/-! ## Compound values -/

/-- Null, or a value. -/
def nullable (read : Document → Decode α) : Document → Decode (Option α)
  | .null => pure none
  | d => some <$> read d

/-- The items of a list, numbered from `i`. -/
def each (read : Document → Decode α) (i : Nat) : List Document → Decode (List α)
  | [] => pure []
  | d :: rest => List.cons <$> under (.index i) (read d) <*> each read (i + 1) rest

/-- A list. -/
def list (read : Document → Decode α) : Document → Decode (List α)
  | .list items => each read 0 items
  | _ => fail .notList

/-- An object, read by its fields. -/
def object (read : List (String × Document) → Decode α) : Document → Decode α
  | .object fields => read fields
  | _ => fail .notObject

/-- A field that may be absent. -/
def fieldOr (fields : List (String × Document)) (name : String) (absent : Decode α)
    (read : Document → Decode α) : Decode α :=
  match Document.field? name fields with
  | some d => under (.field name) (read d)
  | none => absent

/-- A field that must be present. -/
def field (fields : List (String × Document)) (name : String)
    (read : Document → Decode α) : Decode α :=
  fieldOr fields name (under (.field name) (fail .missing)) read

/-- The identifier of an object; one that comes without gets a fresh one. -/
def idField (fields : List (String × Document)) : Decode Ident :=
  fieldOr fields "id" fresh ident

/-- A key of a table; its issues are told from those of the value by a step `[key]`. -/
def key {κ : Type} (read? : String → Option κ) (name : String) : Decode κ :=
  under (.field name) (under (.field "[key]") (orFail .idUnreadable (read? name)))

/-- The entries of a table, each with the issues of its key first. -/
def entries {κ : Type} (read? : String → Option κ) (read : Document → Decode α) :
    List (String × Document) → Decode (List (κ × α))
  | [] => pure []
  | (name, d) :: rest =>
    (fun k a rest => (k, a) :: rest) <$> key read? name <*> under (.field name) (read d) <*>
      entries read? read rest

/-- A table. Of two entries with one key the later counts. -/
def table {κ : Type} [DecidableEq κ] (read? : String → Option κ) (read : Document → Decode α) :
    Document → Decode (Table κ α)
  | .object fields => Table.ofList <$> entries read? read fields
  | _ => fail .notTable

/-! ## Tagged objects -/

/-- The tag of an object: the text in its field `kind`, looked up. -/
def tagged {τ : Type} (ofName? : String → Option τ)
    (read : τ → List (String × Document) → Decode α) (tagName : τ → String) :
    Document → Decode α
  | .object fields =>
    match Document.field? "kind" fields with
    | none => fail .tagAbsent
    | some (.text word) =>
      match ofName? word with
      | some tag => under (.field (tagName tag)) (read tag fields)
      | none => fail .tagUnknown
    | some _ => fail .tagUnknown
  | _ => fail .notTagged

/-- Checks that a tag, where there is one, is the given word. -/
def onlyTag (fields : List (String × Document)) (word : String) : Decode Unit :=
  fieldOr fields "kind" (pure ()) fun
    | .text s => if s = word then pure () else fail .tagOther
    | _ => fail .tagOther

end Decode

end HexRules
