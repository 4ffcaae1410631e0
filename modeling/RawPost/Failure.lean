import RawPost.Connection.Fault
import RawPost.Text.Template.Fill

/-!
# Failures

A failure says which part of an exchange did not succeed and why.  Its report is made from a template and
the values that belong to it, so nothing that comes from outside is read as a template.
-/

namespace RawPost

open Text

inductive Concern where
  | general
  | usage
  | socket
  | resolution
  | connecting
  | writing
  | reading
  | capacity
  deriving DecidableEq, Repr

/-- What is told about a failure, and the status that the program ends with because of it. -/
structure Report where
  concern : Concern
  message : String
  status : Nat
  deriving DecidableEq, Repr

def Report.compose [Memory] (concern : Concern) (template : Template.Value) (values : List Template.Value) :
    Except Template.Error Report :=
  (Template.render template values).map fun message => ⟨concern, message, 1⟩

inductive Failure where
  | notSupported
  | notOpened (fault : Fault)
  | notResolved (host : String) (fault : Fault)
  | connectTimedOut (address : String) (port : Int)
  | notConnected (address : String) (port : Int) (fault : Fault)
  | invalidPort (port : Int) (fault : Fault)
  | closedWhileSending (sent total : Nat)
  | sendTimedOut (sent total : Nat)
  | notSent (fault : Fault)
  | tooLarge (limit : Nat)
  | receiveTimedOut
  | notReceived (fault : Fault)
  deriving DecidableEq, Repr

namespace Failure

def concern : Failure → Concern
  | notSupported => .usage
  | notOpened _ => .socket
  | notResolved _ _ => .resolution
  | connectTimedOut _ _ | notConnected _ _ _ | invalidPort _ _ => .connecting
  | closedWhileSending _ _ | sendTimedOut _ _ | notSent _ => .writing
  | tooLarge _ => .capacity
  | receiveTimedOut | notReceived _ => .reading

def template : Failure → String
  | notSupported => "Invalid HTTP request."
  | notOpened _ => "Cannot open socket: %s"
  | notResolved _ _ => "No such host %r: %s"
  | connectTimedOut _ _ => "Timed out connecting to %s:%d"
  | notConnected _ _ _ => "Cannot connect to %s:%d: %s"
  | invalidPort _ _ => "Invalid port %d: %s"
  | closedWhileSending _ _ => "Connection closed after %d of %d bytes"
  | sendTimedOut _ _ => "Timed out after writing %d of %d bytes"
  | notSent _ => "Cannot write request to the socket: %s"
  | tooLarge _ => "Cannot store the complete response from the socket (limit %d bytes)"
  | receiveTimedOut => "Timed out reading response from the socket"
  | notReceived _ => "Cannot read response from the socket: %s"

/-- The integers are counts of octets, or a port that the stage has found to be one that can be written. -/
def values : Failure → List Template.Value
  | notSupported | receiveTimedOut => []
  | notOpened fault | notSent fault | notReceived fault => [.text fault.text]
  | notResolved host fault => [.text host, .text fault.text]
  | connectTimedOut address port => [.text address, .integer port]
  | notConnected address port fault => [.text address, .integer port, .text fault.text]
  | invalidPort port fault => [.integer port, .text fault.text]
  | closedWhileSending sent total | sendTimedOut sent total => [.integer sent, .integer total]
  | tooLarge limit => [.integer limit]

def report [Memory] (failure : Failure) : Except Template.Error Report :=
  Report.compose failure.concern (.text failure.template) failure.values

end Failure

end RawPost
