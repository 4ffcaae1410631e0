import RawPost.CommandLine.Switch
import RawPost.Text.Quoted

/-!
# Misuse of the command line

A command line that cannot be read is answered by a message about the first thing that is wrong with it.
Asking for help ends the reading as well.
-/

namespace RawPost.CommandLine

inductive Slot where
  | method
  | host
  | port
  | path
  deriving DecidableEq, Repr

def Slot.name : Slot → String
  | .method => "method"
  | .host => "host"
  | .port => "port"
  | .path => "path"

def slots : List Slot := [.method, .host, .port, .path]

inductive Misuse where
  | ambiguous (word : String) (names : List String)
  | noValue (switch : Switch)
  | unusedValue (switch : Switch) (value : String)
  | malformedValue (switch : Switch) (value : String)
  | missing (slots : List Slot)
  | unrecognized (words : List String)
  deriving DecidableEq, Repr

def aboutSwitch (switch : Switch) (message : String) : String :=
  "argument " ++ switch.title ++ ": " ++ message

def Misuse.message : Misuse → String
  | .ambiguous word names =>
    "ambiguous option: " ++ word ++ " could match " ++ ", ".intercalate names
  | .noValue switch => aboutSwitch switch "expected one argument"
  | .unusedValue switch value =>
    aboutSwitch switch ("ignored explicit argument " ++ Text.quote value)
  | .malformedValue switch value =>
    aboutSwitch switch ("invalid " ++ switch.valueType ++ " value: " ++ Text.quote value)
  | .missing slots =>
    "the following arguments are required: " ++ ", ".intercalate (slots.map Slot.name)
  | .unrecognized words => "unrecognized arguments: " ++ " ".intercalate words

inductive Halt where
  | help
  | misuse (misuse : Misuse)
  deriving DecidableEq, Repr

end RawPost.CommandLine
