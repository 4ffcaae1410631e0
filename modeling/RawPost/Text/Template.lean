import RawPost.Number.Integer
import RawPost.Text.Quoted

/-!
# Message templates

A template is a text with directives.  A directive is a percent sign, flags, a width, a precision, an
optional length letter and a conversion letter; a doubled percent sign stands for itself.  A width or a
precision is a number or a star, and a star takes its number from the values.

A template is cut into pieces without regard to the values.  What cannot be read becomes the last piece
that counts: filling goes through the pieces in order, so the first fault of a template and its values is
the one that is reported.
-/

namespace RawPost.Text.Template

inductive Value where
  | text (s : String)
  | integer (n : Int)
  | boolean (b : Bool)
  | absent
  deriving DecidableEq, Repr

def Value.typeName : Value → String
  | .text _ => "str"
  | .integer _ => "int"
  | .boolean _ => "bool"
  | .absent => "NoneType"

/-- The number that a numeric conversion takes from a value; truth counts as one. -/
def Value.number? : Value → Option Int
  | .integer n => some n
  | .boolean b => some (if b then 1 else 0)
  | _ => none

def Value.plain : Value → String
  | .text s => s
  | .integer n => Number.integerText n
  | .boolean b => if b then "True" else "False"
  | .absent => "None"

inductive Error where
  | mappingRequired
  | starWithoutInteger
  | starBeyondWidth
  | starBeyondPrecision
  | widthTooBig
  | precisionTooBig
  | incomplete
  | unsupported (conversion : Char) (index : Nat)
  | tooFewValues
  | tooManyValues
  | numberRequired (conversion : Char) (value : Value)
  | realRequired (value : Value)
  | tooLargeForReal
  | characterRequired
  | characterOutOfRange
  | tooPrecise
  | outOfMemory
  | notTemplate (value : Value)
  deriving DecidableEq, Repr

def shownConversion (c : Char) : Char :=
  if 0x1F ≤ c.toNat ∧ c.toNat ≤ 0x7E then c else '?'

def requiredNumber (conversion : Char) : String :=
  if ['o', 'x', 'X'].contains conversion then "an integer" else "a real number"

def Error.message : Error → String
  | .mappingRequired => "format requires a mapping"
  | .starWithoutInteger => "* wants int"
  | .starBeyondWidth => "Python int too large to convert to C ssize_t"
  | .starBeyondPrecision => "Python int too large to convert to C int"
  | .widthTooBig => "width too big"
  | .precisionTooBig => "precision too big"
  | .incomplete => "incomplete format"
  | .unsupported c index =>
    "unsupported format character '" ++ String.singleton (shownConversion c) ++ "' (0x" ++
      String.ofList (Number.digitsIn 16 c.toNat) ++ ") at index " ++ Number.integerText index
  | .tooFewValues => "not enough arguments for format string"
  | .tooManyValues => "not all arguments converted during string formatting"
  | .numberRequired c value =>
    "%" ++ String.singleton c ++ " format: " ++ requiredNumber c ++ " is required, not " ++
      value.typeName
  | .realRequired value => "must be real number, not " ++ value.typeName
  | .tooLargeForReal => "int too large to convert to float"
  | .characterRequired => "%c requires int or char"
  | .characterOutOfRange => "%c arg not in range(0x110000)"
  | .tooPrecise => "precision too large"
  | .outOfMemory => ""
  | .notTemplate value =>
    "unsupported operand type(s) for %: '" ++ value.typeName ++ "' and 'tuple'"

inductive Size where
  | unset
  | fixed (n : Nat)
  | star
  | tooBig
  deriving DecidableEq, Repr

structure Directive where
  left : Bool := false
  plus : Bool := false
  blank : Bool := false
  alternate : Bool := false
  zeros : Bool := false
  width : Size := .unset
  precision : Size := .unset
  deriving DecidableEq, Repr

inductive Piece where
  | literal (c : Char)
  | directive (d : Directive) (conversion : Char) (index : Nat)
  | unfinished (d : Directive)
  | fault (e : Error)
  deriving DecidableEq, Repr

inductive Stage where
  | opened
  | flags
  | width
  | widthRead
  | point
  | precision
  | sizesRead
  | lettersRead
  deriving DecidableEq, Repr

inductive Progress where
  | more (stage : Stage) (d : Directive)
  | done (piece : Piece)
  deriving DecidableEq, Repr

def maxWidth : Nat := 0x7FFFFFFFFFFFFFFF

def maxPrecision : Nat := 0x7FFFFFFF

def asciiDigit? (c : Char) : Option Nat :=
  if c.isDigit then some (c.toNat - '0'.toNat) else none

def Size.push (limit : Nat) (size : Size) (digit : Nat) : Size :=
  match size with
  | .fixed n => if (limit - digit) / 10 < n then .tooBig else .fixed (10 * n + digit)
  | other => other

def Directive.readConversion (d : Directive) (index : Nat) (c : Char) : Progress :=
  .done (.directive d c index)

def Directive.readLength (d : Directive) (index : Nat) (c : Char) : Progress :=
  if ['h', 'l', 'L'].contains c then .more .lettersRead d else d.readConversion index c

def Directive.readPrecision (d : Directive) (index : Nat) (c : Char) : Progress :=
  match asciiDigit? c with
  | some digit =>
    let d := { d with precision := d.precision.push maxPrecision digit }
    if d.precision = .tooBig then .done (.unfinished d) else .more .precision d
  | none => d.readLength index c

def Directive.readPoint (d : Directive) (index : Nat) (c : Char) : Progress :=
  if c = '*' then .more .sizesRead { d with precision := .star } else d.readPrecision index c

def Directive.readAfterWidth (d : Directive) (index : Nat) (c : Char) : Progress :=
  if c = '.' then .more .point { d with precision := .fixed 0 } else d.readLength index c

def Directive.readWidth (d : Directive) (index : Nat) (c : Char) : Progress :=
  match asciiDigit? c with
  | some digit =>
    let d := { d with width := d.width.push maxWidth digit }
    if d.width = .tooBig then .done (.fault .widthTooBig) else .more .width d
  | none => d.readAfterWidth index c

def Directive.readFlags (d : Directive) (index : Nat) (c : Char) : Progress :=
  if c = '-' then .more .flags { d with left := true }
  else if c = '+' then .more .flags { d with plus := true }
  else if c = ' ' then .more .flags { d with blank := true }
  else if c = '#' then .more .flags { d with alternate := true }
  else if c = '0' then .more .flags { d with zeros := true }
  else if c = '*' then .more .widthRead { d with width := .star }
  else if c.isDigit then { d with width := .fixed 0 }.readWidth index c
  else d.readAfterWidth index c

def Directive.read (stage : Stage) (d : Directive) (index : Nat) (c : Char) : Progress :=
  match stage with
  | .opened =>
    if c = '%' then .done (.literal '%')
    else if c = '(' then .done (.fault .mappingRequired)
    else d.readFlags index c
  | .flags => d.readFlags index c
  | .width => d.readWidth index c
  | .widthRead => d.readAfterWidth index c
  | .point => d.readPoint index c
  | .precision => d.readPrecision index c
  | .sizesRead => d.readLength index c
  | .lettersRead => d.readConversion index c

/-- The pieces of a template from a position on, in the middle of a directive or outside of one. -/
def piecesFrom : Option (Stage × Directive) → Nat → List Char → List Piece
  | none, _, [] => []
  | some (_, d), _, [] => [.unfinished d]
  | none, index, c :: rest =>
    if c = '%' then
      piecesFrom (some (.opened, {})) (index + 1) rest
    else
      .literal c :: piecesFrom none (index + 1) rest
  | some (stage, d), index, c :: rest =>
    match d.read stage index c with
    | .more stage d => piecesFrom (some (stage, d)) (index + 1) rest
    | .done piece => piece :: piecesFrom none (index + 1) rest

def pieces (template : String) : List Piece :=
  piecesFrom none 0 template.toList

end RawPost.Text.Template
