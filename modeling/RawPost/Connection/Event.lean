import RawPost.Connection.Fault
import RawPost.Number.Binary64
import RawPost.Text.Utf8

/-!
# Events of an exchange

Each call to the resolver or the socket is an event that records what was asked and what came back, so the
octets that were written and those that were delivered can be read off a trace.  A log record is an event
too.
-/

namespace RawPost

/-- The time a call may take, in seconds; without one it may take forever. -/
abbrev Timeout := Option Number.Binary64

inductive Level where
  | debug
  | warning
  | error
  deriving DecidableEq, Repr

def Level.name : Level → String
  | .debug => "DEBUG"
  | .warning => "WARNING"
  | .error => "ERROR"

inductive Event where
  | opened (result : Except Fault Unit)
  | resolved (host : String) (result : Except Fault String)
  | timeoutSet (timeout : Timeout) (result : Except Fault Unit)
  | connected (address : String) (port : Int) (result : Except Fault Unit)
  | sent (offered : Octets) (result : Except Fault Nat)
  | received (room : Nat) (result : Except Fault Octets)
  | closed (result : Except Fault Unit)
  | logged (level : Level) (message : String)

abbrev Trace := List Event

namespace Event

def written : Event → Octets
  | .sent offered (.ok count) => offered.take count
  | _ => []

def delivered : Event → Octets
  | .received _ (.ok octets) => octets
  | _ => []

def isLogged : Event → Bool
  | .logged _ _ => true
  | _ => false

end Event

namespace Trace

def written (trace : Trace) : Octets :=
  trace.flatMap Event.written

def delivered (trace : Trace) : Octets :=
  trace.flatMap Event.delivered

def calls (trace : Trace) : Trace :=
  trace.filter (!·.isLogged)

end Trace

end RawPost
