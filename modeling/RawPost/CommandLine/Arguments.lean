import RawPost.CommandLine.Selection

/-!
# Arguments

A command line is read in two rounds, so that switches may stand anywhere among the positional arguments.
The first round takes out the switches.  It also drops the separator, unless an operand stands before it;
the words behind a dropped separator are looked at afresh in the second round.

The second round gives what remains to the slots.  A slot takes the separators around its operand with it.
The operands of one run fill as many of the required slots as there are operands; the run in which the
last required slot is filled also gives the body and all headers, and operands in any later run are left
over.
-/

namespace RawPost.CommandLine

open Settings

/-- The positional arguments; a required one is missing if its slot got nothing but separators. -/
structure Arguments where
  method : Option String
  host : Option String
  port : Option String
  path : Option String
  body : Option String
  headers : List String
  deriving DecidableEq, Repr

/-- The words that the first round leaves; `isFresh` says that no operand has come yet. -/
def leftover (isFresh : Bool) : List Item → List String
  | [] => []
  | .operand text :: rest => text :: leftover false rest
  | .separator :: rest =>
    if isFresh then leftover false rest else separatorText :: leftover false rest
  | .cut strays :: rest => strays ++ leftover isFresh rest

inductive Token where
  | operand (text : String)
  | separator
  deriving DecidableEq, Repr

namespace Token

def text : Token → String
  | operand text => text
  | separator => separatorText

def isSeparator : Token → Bool
  | operand _ => false
  | separator => true

end Token

/-- The tokens of a run with the separators at its beginning, its first operand and those behind it. -/
def splitSlot (run : List Token) : List Token × List Token :=
  let (before, atOperand) := run.span Token.isSeparator
  let (after, rest) := (atOperand.drop 1).span Token.isSeparator
  (before ++ atOperand.take 1 ++ after, rest)

/-- The texts of a slot without the first separator. -/
def slotTexts (slot : List Token) : List String :=
  (slot.map Token.text).erase separatorText

structure Filling where
  required : List (Option String) := []
  body : Option String := none
  headers : List String := []
  strays : List String := []
  deriving DecidableEq, Repr

namespace Filling

def missing (filling : Filling) : List Slot :=
  slots.drop filling.required.length

/-- Gives the next slots to a run, one for each operand, and returns what remains of the run. -/
def fillRequired : Nat → Filling → List Token → Filling × List Token
  | 0, filling, run => (filling, run)
  | count + 1, filling, run =>
    let (slot, rest) := splitSlot run
    fillRequired count { filling with required := filling.required ++ [(slotTexts slot).head?] } rest

def fillRun (filling : Filling) (run : List Token) : Filling :=
  let needed := filling.missing.length
  let operands := (run.filter (!·.isSeparator)).length
  let (filling, rest) := fillRequired (min needed operands) filling run
  if needed ≠ 0 ∧ needed ≤ operands then
    let (bodySlot, headerSlot) := splitSlot rest
    { filling with body := (slotTexts bodySlot).head?, headers := slotTexts headerSlot }
  else
    { filling with strays := filling.strays ++ rest.map Token.text }

def fillFrom (filling : Filling) (run : List Token) : List Item → Filling
  | [] => filling.fillRun run
  | .operand text :: rest => fillFrom filling (run ++ [.operand text]) rest
  | .separator :: rest => fillFrom filling (run ++ [.separator]) rest
  | .cut strays :: rest =>
    let filling := filling.fillRun run
    fillFrom { filling with strays := filling.strays ++ strays } [] rest

/-- The arguments, if all required slots have been filled and nothing is left over. -/
def arguments (filling : Filling) : Except Misuse Arguments :=
  match filling.required with
  | [method, host, port, path] =>
    if filling.strays.isEmpty then
      .ok ⟨method, host, port, path, filling.body, filling.headers⟩
    else
      .error (.unrecognized filling.strays)
  | _ => .error (.missing filling.missing)

end Filling

def misusing {α : Type} (result : Except Misuse α) : Except Halt α :=
  result.mapError .misuse

def read (texts : List String) : Except Halt (Layer × Arguments) := do
  let (layer, items) ← select none {} (← misusing (Word.ofTexts texts))
  let (layer, items) ← select none layer (← misusing (Word.ofTexts (leftover true items)))
  let arguments ← misusing (Filling.fillFrom {} [] items).arguments
  return (layer, arguments)

end RawPost.CommandLine
