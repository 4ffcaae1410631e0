import RawPost.Number.Binary64
import RawPost.Number.Scientific
import RawPost.Text.Template

/-!
# Fields of a message template

A field is what a conversion writes for its value, padded to the width.  Padding is spaces on the side
that the layout names; a number that is not put to the left is padded with zeros between its sign and its
digits if the zero flag asks for it.

An integer is written in a base with at least as many digits as the precision says.  A real number is
written with its point, and the precision says how many digits follow the point, or, where the shorter of
two forms is asked for, how many digits there are.
-/

namespace RawPost.Text.Template

structure Layout where
  left : Bool
  plus : Bool
  blank : Bool
  alternate : Bool
  zeros : Bool
  width : Nat
  precision : Option Nat
  deriving DecidableEq, Repr

/--
The parts of a field in their order.  Spaces and zeros are counted and not written out, so that a fault
further on in the template is found before they are.
-/
structure Field where
  spacesBefore : Nat := 0
  sign : List Char := []
  zerosBefore : Nat := 0
  body : List Char
  zerosAfter : Nat := 0
  ending : List Char := []
  spacesAfter : Nat := 0
  deriving DecidableEq, Repr

def Field.length (field : Field) : Nat :=
  field.spacesBefore + field.sign.length + field.zerosBefore + field.body.length + field.zerosAfter +
    field.ending.length + field.spacesAfter

/-- How much of a field comes from a width or a precision alone. -/
def Field.padding (field : Field) : Nat :=
  field.spacesBefore + field.zerosBefore + field.zerosAfter + field.spacesAfter

def Field.chars (field : Field) : List Char :=
  List.replicate field.spacesBefore ' ' ++ field.sign ++ List.replicate field.zerosBefore '0' ++
    field.body ++ List.replicate field.zerosAfter '0' ++ field.ending ++
    List.replicate field.spacesAfter ' '

@[simp] theorem Field.length_chars (field : Field) : field.chars.length = field.length := by
  simp [Field.chars, Field.length]
  omega

/-! ## Padding -/

def Layout.pad (layout : Layout) (field : Field) : Field :=
  let gap := layout.width - field.length
  if layout.left then { field with spacesAfter := gap } else { field with spacesBefore := gap }

def Layout.padNumber (layout : Layout) (field : Field) : Field :=
  if layout.zeros ∧ !layout.left then
    { field with zerosBefore := layout.width - field.length + field.zerosBefore }
  else
    layout.pad field

/-! ## Texts -/

def Layout.textField (layout : Layout) (shown : String) : Field :=
  let chars := shown.toList
  layout.pad { body := (layout.precision.map chars.take).getD chars }

/-- A character is whole whatever the precision. -/
def Layout.characterField (layout : Layout) (c : Char) : Field :=
  layout.pad { body := [c] }

/-! ## Integers -/

def Layout.sign (layout : Layout) (n : Int) : List Char :=
  if n < 0 then ['-'] else if layout.plus then ['+'] else if layout.blank then [' '] else []

def integerBase (conversion : Char) : Nat :=
  if conversion = 'o' then 8 else if conversion = 'x' ∨ conversion = 'X' then 16 else 10

def Layout.integerField (layout : Layout) (conversion : Char) (n : Int) : Field :=
  let base := integerBase conversion
  let digits := Number.digitsIn base n.natAbs
  let mark := if layout.alternate ∧ base ≠ 10 then ['0', conversion] else []
  layout.padNumber {
    sign := layout.sign n ++ mark
    zerosBefore := layout.precision.getD 0 - digits.length
    body := if conversion = 'X' then digits.map Char.toUpper else digits }

/-! ## Real numbers -/

inductive RealForm where
  | positional
  | scientific
  | shorter
  deriving DecidableEq, Repr

def realForm? (conversion : Char) : Option RealForm :=
  if conversion = 'f' ∨ conversion = 'F' then some .positional
  else if conversion = 'e' ∨ conversion = 'E' then some .scientific
  else if conversion = 'g' ∨ conversion = 'G' then some .shorter
  else none

/-- Digits after the point where a template does not say how many. -/
def usualPrecision : Nat := 6

/-- The point stands where digits follow it, or always in the alternate form. -/
def Layout.point (layout : Layout) (digitsFollow : Bool) : List Char :=
  if digitsFollow || layout.alternate then ['.'] else []

def exponentText (mark : Char) (exponent : Nat) : List Char :=
  [mark, '+'] ++ (if exponent < 10 then ['0'] else []) ++ Number.digitsIn 10 exponent

def Layout.positionalField (layout : Layout) (precision magnitude : Nat) : Field :=
  { body := Number.digitsIn 10 magnitude ++ layout.point (0 < precision), zerosAfter := precision }

/-- A number in scientific form, with so many zeros after its digits. -/
def Layout.scientificField (layout : Layout) (mark : Char) (number : Number.Scientific) (zeros : Nat) :
    Field :=
  {
    body := number.first :: layout.point (number.rest ≠ [] ∨ 0 < zeros) ++ number.rest
    zerosAfter := zeros
    ending := exponentText mark number.exponent }

/--
The places of the scientific form: one before the point, the others after it.  The greatest precision
leaves the one before the point only.
-/
def scientificPlaces (precision : Nat) : Nat :=
  if precision < maxPrecision then precision + 1 else 1

/--
The shorter form is positional where the digits before the point fit into the places.  Zeros fill the
places in the alternate form only.
-/
def Layout.shorterField (layout : Layout) (mark : Char) (precision magnitude : Nat) : Field :=
  let places := max 1 precision
  let number := Number.Scientific.ofNat places magnitude
  if number.exponent < places then
    layout.positionalField (if layout.alternate then places - (number.exponent + 1) else 0) magnitude
  else
    layout.scientificField mark number (if layout.alternate then number.freePlaces places else 0)

def Layout.magnitudeField (layout : Layout) (form : RealForm) (mark : Char) (magnitude : Nat) : Field :=
  let precision := layout.precision.getD usualPrecision
  match form with
  | .positional => layout.positionalField precision magnitude
  | .scientific =>
    let places := scientificPlaces precision
    let number := Number.Scientific.ofNat places magnitude
    layout.scientificField mark number (number.freePlaces places)
  | .shorter => layout.shorterField mark precision magnitude

/-- An integer as the real number nearest to it, unless it is beyond them. -/
def Layout.realField? (layout : Layout) (form : RealForm) (conversion : Char) (n : Int) : Option Field :=
  (Number.Binary64.nearestNatural? n.natAbs).map fun magnitude =>
    let mark := if conversion.isUpper then 'E' else 'e'
    layout.padNumber { layout.magnitudeField form mark magnitude with sign := layout.sign n }

end RawPost.Text.Template
