import RawPost.CommandLine.Word
import RawPost.Number.Decimal
import RawPost.Settings

/-!
# What the switches select

Switches act in the order in which they stand, each on the layer of settings that the ones before it have
left.  A switch with a value takes the attached one, or else the operand that follows it; a value that is
only a separator leaves the place blank.  Switches that take no value can be put together after one dash.

What remains is a list of items: operands, the separator, and the places where the words were cut by a
switch or by a stray word.
-/

namespace RawPost.CommandLine

open Settings

inductive Item where
  | operand (text : String)
  | separator
  | cut (strays : List String)
  deriving DecidableEq, Repr

def reading {α : Type} (switch : Switch) (value : String) (result : Option α) : Except Halt α :=
  match result with
  | some a => .ok a
  | none => .error (.misuse (.malformedValue switch value))

/-- The entry of a value; the separator is no value. -/
def entryOf {α : Type} (switch : Switch) (value : String) (read? : String → Option α) :
    Except Halt (Entry α) :=
  if value = separatorText then .ok .blank
  else (reading switch value (read? value)).map .value

def secondsOf? (value : String) : Option Timeout :=
  (Number.readDecimal? value).map some

def Switch.turnOn (switch : Switch) (layer : Layer) : Except Halt Layer :=
  match switch with
  | .help => .error .help
  | .printResponse => .ok { layer with printResponse := some true }
  | .debug => .ok { layer with debug := some true }
  | .connectTimeout | .readTimeout | .responseLimit => .error (.misuse (.noValue switch))

def Switch.assign (switch : Switch) (value : String) (layer : Layer) : Except Halt Layer :=
  match switch with
  | .connectTimeout => do
    return { layer with connectTimeout := some (← entryOf switch value secondsOf?) }
  | .readTimeout => do
    return { layer with readTimeout := some (← entryOf switch value secondsOf?) }
  | .responseLimit => do
    return { layer with responseLimit := some (← entryOf switch value Number.readInteger?) }
  | .help | .printResponse | .debug => .error (.misuse (.unusedValue switch value))

/-- The switches that follow a short one after the same dash. -/
def cluster (switch : Switch) : List Char → Except Misuse (List Switch)
  | [] => .ok []
  | c :: rest =>
    match exactSwitch? ['-', c] with
    | none => .error (.unusedValue switch (String.ofList (c :: rest)))
    | some next => do
      return next :: (← cluster next rest)

def Switch.attach (switch : Switch) (isShort : Bool) (value : String) (layer : Layer) :
    Except Halt Layer :=
  if switch.takesValue then
    switch.assign value layer
  else if isShort && !value.isEmpty then
    match cluster switch value.toList with
    | .error misuse => .error (.misuse misuse)
    | .ok others => (switch :: others).foldlM (fun layer next => next.turnOn layer) layer
  else
    .error (.misuse (.unusedValue switch value))

/--
Goes through the words, with the switch that waits for its value, if there is one.
-/
def select : Option Switch → Layer → List Word → Except Halt (Layer × List Item)
  | some switch, layer, .operand value :: rest => do
    let (layer, items) ← select none (← switch.assign value layer) rest
    return (layer, .cut [] :: items)
  | some switch, _, _ => .error (.misuse (.noValue switch))
  | none, layer, [] => .ok (layer, [])
  | none, layer, .operand text :: rest => do
    let (layer, items) ← select none layer rest
    return (layer, .operand text :: items)
  | none, layer, .separator :: rest => do
    let (layer, items) ← select none layer rest
    return (layer, .separator :: items)
  | none, layer, .stray text :: rest => do
    let (layer, items) ← select none layer rest
    return (layer, .cut [text] :: items)
  | none, layer, .switch switch _ none :: rest =>
    if switch.takesValue then
      select (some switch) layer rest
    else do
      let (layer, items) ← select none (← switch.turnOn layer) rest
      return (layer, .cut [] :: items)
  | none, layer, .switch switch isShort (some value) :: rest => do
    let (layer, items) ← select none (← switch.attach isShort value layer) rest
    return (layer, .cut [] :: items)

end RawPost.CommandLine
