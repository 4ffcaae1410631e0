import RawPost.Failure
import RawPost.Request
import RawPost.Response

/-!
# Exchanges

An exchange sends one request and keeps its response.  It goes through its stages in order: it opens a
socket, resolves the host, connects, sends all octets, and receives until the stream ends or the buffer is
full.  A stage ends the exchange by a failure of its own or by a fault that it does not treat.

Once the socket is open it is closed at the end, whatever happened.  A fault of closing that is not the
system's replaces what the exchange came to; one that is the system's is passed over.
-/

namespace RawPost

namespace Exchange

inductive Stop where
  | failure (failure : Failure)
  | fault (fault : Fault)
  | noBuffer (refusal : Response.Refusal)
  deriving DecidableEq, Repr

/-- A fault of the system is a failure of the stage, any other fault is not treated. -/
def Stop.ofSystem (failure : Failure) (fault : Fault) : Stop :=
  if fault.isSystem then .failure failure else .fault fault

def openStop (fault : Fault) : Stop :=
  .ofSystem (.notOpened fault) fault

def resolveStop (host : String) (fault : Fault) : Stop :=
  if fault.isEncoding then .failure (.notResolved host fault)
  else .ofSystem (.notResolved host fault) fault

/-- What is told of a port has its number in it; a number that cannot be written is a fault of its own. -/
def Stop.ofPort (port : Int) (failure : Failure) : Stop :=
  if Number.IsWritable port then .failure failure else .fault .unwritable

def connectStop (address : String) (port : Int) (fault : Fault) : Stop :=
  if fault.isTimeout then .ofPort port (.connectTimedOut address port)
  else if fault.isRange then .ofPort port (.invalidPort port fault)
  else if fault.isSystem then .ofPort port (.notConnected address port fault)
  else .fault fault

def sendStop (sent total : Nat) (fault : Fault) : Stop :=
  if fault.isTimeout then .failure (.sendTimedOut sent total)
  else .ofSystem (.notSent fault) fault

def receiveStop (fault : Fault) : Stop :=
  if fault.isTimeout then .failure .receiveTimedOut else .ofSystem (.notReceived fault) fault

def openSocket : Action Stop Unit :=
  Action.openSocket.mapError openStop

def resolve (host : String) : Action Stop String := do
  let address ← (Action.resolveHost host).mapError (resolveStop host)
  Action.log .debug ("Resolved " ++ host ++ " to " ++ address)
  return address

/-- The timeouts are set, and the connection is noted, outside of what the stage treats. -/
def connect (settings : Settings) (address : String) (port : Int) : Action Stop Unit := do
  (Action.setTimeout settings.connectTimeout).mapError .fault
  (Action.connectTo address port).mapError (connectStop address port)
  (Action.setTimeout settings.readTimeout).mapError .fault
  match Number.writeInteger? port with
  | none => Action.fail (.fault .unwritable)
  | some number => Action.log .debug ("Connected to " ++ address ++ ":" ++ number)

def sendRest (total : Nat) : Octets → Action Stop Unit
  | [] => Action.done ()
  | octet :: rest => do
    let sent := total - (octet :: rest).length
    match ← (Action.sendSome (octet :: rest)).mapError (sendStop sent total) with
    | 0 => Action.fail (.failure (.closedWhileSending sent total))
    | count + 1 => sendRest total (rest.drop count)
termination_by rest => rest.length

def send (octets : Octets) : Action Stop Nat := do
  sendRest octets.length octets
  Action.log .debug ("Sent " ++ Number.integerText octets.length ++ " bytes")
  return octets.length

/--
Reads into a response until it is full, the stream ends, or the system reports a fault; the fault is noted
in the log and kept.
-/
def receiveInto (chunkSize : Int) (response : Response) : Action Stop (Response × Option Fault) :=
  if response.isFull then
    Action.done (response, none)
  else do
    match ← (response.read chunkSize).attempt with
    | .error fault =>
      if fault.isSystem then
        Action.log .warning
          ("Read failed after " ++ Number.integerText response.received ++ " bytes: " ++ fault.text)
        return (response, some fault)
      else
        Action.fail (.fault fault)
    | .ok [] => return (response, none)
    | .ok (octet :: rest) => receiveInto chunkSize (response.append (octet :: rest))
termination_by response.free
decreasing_by exact Response.free_append_lt (by simp_all) (by simp)

/-- A full buffer may have missed something, so it is a failure even if a fault follows. -/
def receive [Memory] (settings : Settings) : Action Stop Response := do
  let empty ← Action.lift ((Response.ofCapacity settings.responseLimit).mapError .noBuffer)
  let (response, fault) ← receiveInto settings.chunkSize empty
  if response.isFull then
    Action.fail (.failure (.tooLarge response.capacity))
  else
    match fault with
    | some fault => Action.fail (receiveStop fault)
    | none => do
      Action.log .debug ("Received " ++ Number.integerText response.received ++ " bytes")
      return response

def converse [Memory] (settings : Settings) (request : Request) (octets : Octets) : Action Stop Response := do
  let address ← resolve request.host
  connect settings address request.port
  let _ ← send octets
  receive settings

/-- What an exchange comes to when closing its socket came to `closed`. -/
def afterClosing {α : Type} (outcome : Except Stop α) (closed : Except Fault Unit) : Except Stop α :=
  match closed with
  | .ok () => outcome
  | .error fault => if fault.isSystem then outcome else .error (.fault fault)

def closing {α : Type} (action : Action Stop α) : Action Stop α := fun peer =>
  let step := action peer
  let close := Action.closeSocket step.peer
  ⟨afterClosing step.outcome close.outcome, step.events ++ close.events, close.peer⟩

def run [Memory] (settings : Settings) (request : Request) (octets : Octets) : Action Stop Response := do
  openSocket
  closing (converse settings request octets)

end Exchange

end RawPost
