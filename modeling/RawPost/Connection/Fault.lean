import RawPost.Number.Integer

/-!
# Faults

A fault is what a call to the network or to the resolver reports instead of a result: its text and the
kind by which it is treated.  Most kinds are failures of the operating system; a text that cannot be
encoded, a value out of range and any other fault are kinds of their own.
-/

namespace RawPost

inductive SystemCause where
  | general
  | timeout
  | refused
  | reset
  | brokenPipe
  | notPermitted
  | wouldBlock
  | addressLookup
  | hostLookup
  deriving DecidableEq, Repr

inductive FaultKind where
  | system (cause : SystemCause)
  | encoding
  | value
  | range
  | other
  deriving DecidableEq, Repr

structure Fault where
  kind : FaultKind
  text : String
  deriving DecidableEq, Repr

/--
The cause that an error number of the operating system stands for.  Numbers without a cause of their own,
those of interruptions, aborted connections, files and processes among them, are general failures.
-/
def SystemCause.ofNumber (number : Int) : SystemCause :=
  if number = 1 ∨ number = 13 then .notPermitted
  else if number = 11 ∨ number = 114 ∨ number = 115 then .wouldBlock
  else if number = 32 ∨ number = 108 then .brokenPipe
  else if number = 104 then .reset
  else if number = 110 then .timeout
  else if number = 111 then .refused
  else .general

def numberedText (number : Int) (text : String) : String :=
  "[Errno " ++ Number.integerText number ++ "] " ++ text

namespace Fault

/-- A fault with an error number; the number tells the cause of a general failure. -/
def numbered (kind : FaultKind) (number : Int) (text : String) : Fault where
  kind := if kind = .system .general then .system (.ofNumber number) else kind
  text := numberedText number text

/-- A number has too many digits to stand in a message. -/
def unwritable : Fault :=
  ⟨.value, Number.unwritableMessage⟩

def isSystem (fault : Fault) : Bool :=
  match fault.kind with
  | .system _ => true
  | _ => false

def isTimeout (fault : Fault) : Bool :=
  fault.kind = .system .timeout

def isEncoding (fault : Fault) : Bool :=
  fault.kind = .encoding

def isRange (fault : Fault) : Bool :=
  fault.kind = .range

end Fault

end RawPost
