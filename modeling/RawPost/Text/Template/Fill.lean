import RawPost.Memory
import RawPost.Text.Template.Field

/-!
# Filling message templates

Values are taken from left to right, one for each star and one for each conversion, and all of them have
to be used.  A conversion makes a field of its value; a field that is padded to more than fits into memory
is a fault of its conversion.
-/

namespace RawPost.Text.Template

def characterOf : Value → Except Error Char
  | .text s =>
    match s.toList with
    | [c] => .ok c
    | _ => .error .characterRequired
  | .integer n => if 0 ≤ n ∧ n < 0x110000 then .ok (Char.ofNat n.toNat) else .error .characterOutOfRange
  | .boolean b => .ok (Char.ofNat (if b then 1 else 0))
  | .absent => .error .characterRequired

def quotedValue (quoting : String → String) : Value → String
  | .text s => quoting s
  | other => other.plain

def integerConversions : List Char := ['d', 'i', 'u', 'o', 'x', 'X']

/-- The last precision of an integer: a sign and the mark of a base fit beside that many digits. -/
def maxIntegerPrecision : Nat := maxPrecision - 3

def Layout.integerConversion (layout : Layout) (conversion : Char) (value : Value) :
    Except Error Field :=
  match value.number? with
  | none => .error (.numberRequired conversion value)
  | some n =>
    if maxIntegerPrecision < layout.precision.getD 0 then .error .tooPrecise
    else .ok (layout.integerField conversion n)

def Layout.realConversion (layout : Layout) (form : RealForm) (conversion : Char) (value : Value) :
    Except Error Field :=
  match value.number? with
  | none => .error (.realRequired value)
  | some n =>
    match layout.realField? form conversion n with
    | none => .error .tooLargeForReal
    | some field => .ok field

def Layout.field (layout : Layout) (conversion : Char) (index : Nat) (value : Value) :
    Except Error Field :=
  if conversion = 's' then
    .ok (layout.textField value.plain)
  else if conversion = 'r' then
    .ok (layout.textField (quotedValue quote value))
  else if conversion = 'a' then
    .ok (layout.textField (quotedValue quoteAscii value))
  else if conversion = 'c' then
    (characterOf value).map layout.characterField
  else if integerConversions.contains conversion then
    layout.integerConversion conversion value
  else
    match realForm? conversion with
    | some form => layout.realConversion form conversion value
    | none => .error (.unsupported conversion index)

def Layout.convert [Memory] (layout : Layout) (conversion : Char) (index : Nat) (value : Value) :
    Except Error Field := do
  let field ← layout.field conversion index value
  if field.padding ≠ 0 ∧ Memory.limit ≤ field.length then
    .error .outOfMemory
  return field

def starValue (outOfRange : Int → Bool) (beyond : Error) :
    List Value → Except Error (Int × List Value)
  | [] => .error .tooFewValues
  | value :: values =>
    match value.number? with
    | none => .error .starWithoutInteger
    | some n => if outOfRange n then .error beyond else .ok (n, values)

/--
Settles the width.  A negative one from a star puts the text to the left; the least of them has no opposite
among the widths and pads nothing.
-/
def Directive.takeWidth (d : Directive) (values : List Value) :
    Except Error (Bool × Nat × List Value) :=
  match d.width with
  | .unset => .ok (d.left, 0, values)
  | .fixed n => .ok (d.left, n, values)
  | .tooBig => .error .widthTooBig
  | .star =>
    (starValue (fun n => n < -(maxWidth : Int) - 1 ∨ (maxWidth : Int) < n) .starBeyondWidth values).map
      fun (n, values) => (d.left || n < 0, if n.natAbs ≤ maxWidth then n.natAbs else 0, values)

/-- Settles the precision; a negative one from a star is zero. -/
def Directive.takePrecision (d : Directive) (values : List Value) :
    Except Error (Option Nat × List Value) :=
  match d.precision with
  | .unset => .ok (none, values)
  | .fixed n => .ok (some n, values)
  | .tooBig => .error .precisionTooBig
  | .star =>
    (starValue (fun n => n < -(maxPrecision : Int) - 1 ∨ (maxPrecision : Int) < n) .starBeyondPrecision
      values).map fun (n, values) => (some n.toNat, values)

def Directive.layout (d : Directive) (values : List Value) : Except Error (Layout × List Value) := do
  let (left, width, values) ← d.takeWidth values
  let (precision, values) ← d.takePrecision values
  return (⟨left, d.plus, d.blank, d.alternate, d.zeros, width, precision⟩, values)

def fill [Memory] : List Piece → List Value → Except Error (List Char)
  | [], [] => .ok []
  | [], _ :: _ => .error .tooManyValues
  | .literal c :: rest, values => do
    return c :: (← fill rest values)
  | .fault e :: _, _ => .error e
  | .unfinished d :: _, values => do
    let _ ← d.layout values
    .error .incomplete
  | .directive d conversion index :: rest, values => do
    let (layout, values) ← d.layout values
    match values with
    | [] => .error .tooFewValues
    | value :: values =>
      let field ← layout.convert conversion index value
      let chars ← fill rest values
      return field.chars ++ chars

/--
The text of a template and its values.  Without values a template is plain text, and nothing stands for
the empty text.
-/
def render [Memory] (template : Value) (values : List Value) : Except Error String :=
  match template, values with
  | .absent, _ => .ok ""
  | template, [] => .ok template.plain
  | .text template, values => (fill (pieces template) values).map String.ofList
  | template, _ => .error (.notTemplate template)

end RawPost.Text.Template
