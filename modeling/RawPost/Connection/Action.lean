import RawPost.Connection.Peer

/-!
# Actions on a connection

An action meets a peer and ends with a result or an error, leaving what remains of the peer's answers and
the events that happened.  Actions in sequence stop at the first error, and their events follow one
another.
-/

namespace RawPost

structure Step (ε α : Type) where
  outcome : Except ε α
  events : Trace
  peer : Peer

abbrev Action (ε α : Type) := Peer → Step ε α

namespace Action

variable {ε ε' α β : Type}

def done (a : α) : Action ε α := fun peer =>
  ⟨.ok a, [], peer⟩

def fail (e : ε) : Action ε α := fun peer =>
  ⟨.error e, [], peer⟩

def lift (result : Except ε α) : Action ε α := fun peer =>
  ⟨result, [], peer⟩

def andThen (action : Action ε α) (next : α → Action ε β) : Action ε β := fun peer =>
  let first := action peer
  match first.outcome with
  | .error e => ⟨.error e, first.events, first.peer⟩
  | .ok a =>
    let second := next a first.peer
    ⟨second.outcome, first.events ++ second.events, second.peer⟩

/-- Goes on with the result of an action, be it an error or not. -/
def attempt (action : Action ε α) : Action ε' (Except ε α) := fun peer =>
  let step := action peer
  ⟨.ok step.outcome, step.events, step.peer⟩

/-- Says what an error means to whoever asked for the action. -/
def mapError (action : Action ε α) (meaning : ε → ε') : Action ε' α := fun peer =>
  let step := action peer
  ⟨step.outcome.mapError meaning, step.events, step.peer⟩

instance : Monad (Action ε) where
  pure := done
  bind := andThen

def log (level : Level) (message : String) : Action ε Unit := fun peer =>
  ⟨.ok (), [.logged level message], peer⟩

def openSocket : Action Fault Unit := fun peer =>
  ⟨peer.opening, [.opened peer.opening], peer⟩

def resolveHost (host : String) : Action Fault String := fun peer =>
  ⟨peer.resolution, [.resolved host peer.resolution], peer⟩

def setTimeout (timeout : Timeout) : Action Fault Unit := fun peer =>
  let (result, peer) := peer.setTimeout
  ⟨result, [.timeoutSet timeout result], peer⟩

def connectTo (address : String) (port : Int) : Action Fault Unit := fun peer =>
  ⟨peer.connecting, [.connected address port peer.connecting], peer⟩

/-- Offers octets to the socket; the result is how many it accepted. -/
def sendSome (offered : Octets) : Action Fault Nat := fun peer =>
  let (result, peer) := peer.send offered
  ⟨result, [.sent offered result], peer⟩

def receiveSome (room : Nat) : Action Fault Octets := fun peer =>
  let (result, peer) := peer.receive room
  ⟨result, [.received room result], peer⟩

def closeSocket : Action Fault Unit := fun peer =>
  ⟨peer.closing, [.closed peer.closing], peer⟩

end Action

end RawPost
