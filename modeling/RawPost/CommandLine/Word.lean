import RawPost.CommandLine.Misuse
import RawPost.Text.DecimalDigit

/-!
# Words of a command line

A word that begins with a dash names a switch, by a name of the switch or by the beginning of exactly one
long name; a value may be attached, to a long name after an equals sign and to a short one directly.  A
dash alone, a negative number, and a word with a space that names no switch are operands like any word
without a dash, and a word that is none of these is stray.  After the first separator all words are
operands.
-/

namespace RawPost.CommandLine

open Text

inductive Word where
  | operand (text : String)
  | separator
  | switch (switch : Switch) (isShort : Bool) (attached : Option String)
  | stray (text : String)
  deriving DecidableEq, Repr

def separatorText : String := "--"

def isDigits (text : List Char) : Bool :=
  !text.isEmpty && text.all isDigit

/-- Digits, or a point with digits after it and perhaps before it. -/
def isUnsignedNumber (text : List Char) : Bool :=
  let (whole, fraction) := text.span isDigit
  match fraction with
  | [] => isDigits whole
  | '.' :: rest => isDigits rest
  | _ => false

/-- A text without the line feed at its end, if there is one. -/
def withoutFinalLineFeed (text : List Char) : List Char :=
  if text.getLast? = some '\n' then text.dropLast else text

def isNegativeNumber : List Char → Bool
  | '-' :: rest => isUnsignedNumber (withoutFinalLineFeed rest)
  | _ => false

/-- A word cut at its first equals sign, which belongs to neither part. -/
def splitAttached (text : List Char) : List Char × Option String :=
  let (name, rest) := text.span (· != '=')
  match rest with
  | [] => (name, none)
  | _ :: value => (name, some (String.ofList value))

def exactSwitch? (name : List Char) : Option Switch :=
  switchNames.lookup (String.ofList name)

def isLongName : List Char → Bool
  | '-' :: '-' :: _ => true
  | _ => false

def switchesFrom (start : List Char) : List (String × Switch) :=
  switchNames.filter fun (name, _) => start.isPrefixOf name.toList

/-- A word that names no switch. -/
def strayWord (text : List Char) : Word :=
  if isNegativeNumber text || text.contains ' ' then .operand (String.ofList text)
  else .stray (String.ofList text)

def abbreviatedWord (text : List Char) : Except Misuse Word :=
  let (start, attached) := splitAttached text
  match switchesFrom start with
  | [] => .ok (strayWord text)
  | [(_, switch)] => .ok (.switch switch false attached)
  | names => .error (.ambiguous (String.ofList text) (names.map Prod.fst))

def clusteredWord (text : List Char) : Word :=
  match exactSwitch? (text.take 2) with
  | none => strayWord text
  | some switch => .switch switch true (some (String.ofList (text.drop 2)))

def dashedWord (text : List Char) : Except Misuse Word :=
  match exactSwitch? text with
  | some switch => .ok (.switch switch (!isLongName text) none)
  | none =>
    let (name, attached) := splitAttached text
    match attached.bind fun value => (exactSwitch? name).map fun switch => (switch, value) with
    | some (switch, value) => .ok (.switch switch (!isLongName text) (some value))
    | none => if isLongName text then abbreviatedWord text else .ok (clusteredWord text)

def Word.ofText (text : String) : Except Misuse Word :=
  match text.toList with
  | '-' :: c :: rest => dashedWord ('-' :: c :: rest)
  | _ => .ok (.operand text)

def Word.ofTexts : List String → Except Misuse (List Word)
  | [] => .ok []
  | text :: rest =>
    if text = separatorText then
      .ok (.separator :: rest.map .operand)
    else do
      let word ← Word.ofText text
      return word :: (← Word.ofTexts rest)

end RawPost.CommandLine
