import RawPost.Exchange
import RawPost.Proofs.Action
import RawPost.Proofs.Stream

/-!
# Received octets under a code

If every octet that a peer sends is replaced by another one, chunk by chunk and octet by octet, an exchange
makes the same calls and comes to the same end: the same failure, or a response of the same length under
the same code.  So nothing but the response itself says which octets came in.
-/

namespace RawPost

variable (code : UInt8 → UInt8)

def Peer.recode (peer : Peer) : Peer :=
  { peer with incoming := peer.incoming.map (Except.map (List.map code)) }

def Event.recode : Event → Event
  | .received room answer => .received room (answer.map (List.map code))
  | event => event

def Response.recode (response : Response) : Response :=
  { response with octets := response.octets.map code }

namespace Peer

theorem setTimeout_recode (peer : Peer) :
    (peer.recode code).setTimeout =
      (peer.setTimeout.1, peer.setTimeout.2.recode code) := by
  cases peer with
  | mk opening resolution connecting closing timeouts sends incoming =>
      cases timeouts <;> rfl

theorem send_recode (peer : Peer) (offered : Octets) :
    (peer.recode code).send offered =
      ((peer.send offered).1, (peer.send offered).2.recode code) := by
  cases peer with
  | mk opening resolution connecting closing timeouts sends incoming =>
      cases sends <;> rfl

theorem leftover_recode (room : Nat) (chunk : Octets)
    (rest : List (Except Fault Octets)) :
    leftover room (chunk.map code) (rest.map (Except.map (List.map code))) =
      (leftover room chunk rest).map (Except.map (List.map code)) := by
  unfold leftover
  rw [List.length_map, ← List.map_drop]
  split <;> rfl

theorem receive_recode (peer : Peer) (room : Nat) :
    (peer.recode code).receive room =
      ((peer.receive room).1.map (List.map code),
        (peer.receive room).2.recode code) := by
  cases peer with
  | mk opening resolution connecting closing timeouts sends incoming =>
      cases incoming with
      | nil => rfl
      | cons answer rest =>
          cases answer with
          | error fault => rfl
          | ok chunk =>
              simp only [recode, receive, List.map_cons, Except.map,
                leftover_recode, ← List.map_take]

end Peer

variable {ε ε' α β : Type}

def Step.recode (value : α → α) (step : Step ε α) : Step ε α where
  outcome := step.outcome.map value
  events := step.events.map (Event.recode code)
  peer := step.peer.recode code

namespace Action

/-- With the code on all that comes in, the first action does what the second one does without it. -/
def Agrees (value : α → α) (first second : Action ε α) : Prop :=
  ∀ peer : Peer, first (peer.recode code) = (second peer).recode code value

variable {code} {value : α → α}

theorem Agrees.bind {value' : β → β} {first second : Action ε α}
    {firstNext secondNext : α → Action ε β}
    (haction : Agrees code value first second)
    (hnext : ∀ a, Agrees code value' (firstNext (value a)) (secondNext a)) :
    Agrees code value' (first >>= firstNext) (second >>= secondNext) := by
  intro peer
  have hfirst := haction peer
  rcases hsecond : second peer with ⟨outcome, events, after⟩
  rw [hsecond] at hfirst
  cases outcome with
  | error e =>
      rw [bind_eq_of_error hfirst, bind_eq_of_error hsecond]
      rfl
  | ok a =>
      rw [bind_eq_of_ok hfirst, bind_eq_of_ok hsecond, hnext a after]
      simp [Step.recode]

theorem Agrees.mapError {first second : Action ε α}
    (haction : Agrees code value first second) (meaning : ε → ε') :
    Agrees code value (first.mapError meaning) (second.mapError meaning) := by
  intro peer
  simp only [Action.mapError, haction peer]
  cases houtcome : (second peer).outcome <;>
    simp [Step.recode, houtcome, Except.map, Except.mapError]

theorem Agrees.attempt {first second : Action ε α}
    (haction : Agrees code value first second) :
    Agrees code (Except.map value)
      (first.attempt : Action ε' (Except ε α)) second.attempt := by
  intro peer
  simp only [Action.attempt, haction peer]
  rfl

theorem agrees_done (a : α) :
    Agrees code value (done (value a) : Action ε α) (done a) := by
  intro peer
  rfl

theorem agrees_fail (e : ε) : Agrees code value (fail e) (fail e) := by
  intro peer
  rfl

theorem agrees_lift {result : Except ε α} (hkept : result.map value = result) :
    Agrees code value (lift result) (lift result) := by
  intro peer
  simp only [lift, Step.recode, hkept]
  rfl

theorem agrees_log (level : Level) (message : String) :
    Agrees code id (log level message : Action ε Unit) (log level message) := by
  intro peer
  rfl

theorem agrees_resolveHost (host : String) :
    Agrees code id (resolveHost host) (resolveHost host) := by
  intro peer
  cases hresolution : peer.resolution <;>
    simp [resolveHost, Peer.recode, Step.recode, Event.recode, hresolution,
      Except.map]

theorem agrees_connectTo (address : String) (port : Int) :
    Agrees code id (connectTo address port) (connectTo address port) := by
  intro peer
  cases hconnecting : peer.connecting <;>
    simp [connectTo, Peer.recode, Step.recode, Event.recode, hconnecting,
      Except.map]

theorem agrees_openSocket :
    Agrees code id openSocket openSocket := by
  intro peer
  cases hopening : peer.opening <;>
    simp [openSocket, Peer.recode, Step.recode, Event.recode, hopening,
      Except.map]

theorem agrees_setTimeout (timeout : Timeout) :
    Agrees code id (setTimeout timeout) (setTimeout timeout) := by
  intro peer
  simp only [setTimeout, Peer.setTimeout_recode]
  cases peer.setTimeout.1 <;> rfl

theorem agrees_sendSome (offered : Octets) :
    Agrees code id (sendSome offered) (sendSome offered) := by
  intro peer
  simp only [sendSome, Peer.send_recode]
  cases (peer.send offered).1 <;> rfl

theorem agrees_receiveSome (room : Nat) :
    Agrees code (List.map code) (receiveSome room) (receiveSome room) := by
  intro peer
  simp only [receiveSome, Peer.receive_recode]
  rfl

end Action

namespace Response

variable {code}

@[simp] theorem received_recode (response : Response) :
    (response.recode code).received = response.received := by
  simp [received, recode]

@[simp] theorem free_recode (response : Response) :
    (response.recode code).free = response.free := by
  rw [free, received_recode]
  rfl

@[simp] theorem isFull_recode (response : Response) :
    (response.recode code).isFull = response.isFull := by
  rw [isFull, free_recode]
  rfl

@[simp] theorem room_recode (response : Response) (chunkSize : Int) :
    (response.recode code).room chunkSize = response.room chunkSize := by
  rw [room, free_recode, received_recode]
  rfl

theorem append_recode (response : Response) (octets : Octets) :
    (response.recode code).append (octets.map code) =
      (response.append octets).recode code := by
  simp [append, recode]

theorem agrees_read (response : Response) (chunkSize : Int) :
    Action.Agrees code (List.map code) ((response.recode code).read chunkSize)
      (response.read chunkSize) := by
  unfold read
  rw [isFull_recode, room_recode]
  split
  · exact Action.agrees_done []
  · exact Action.agrees_receiveSome _

end Response

namespace Exchange

open RawPost.Action

variable {code}

theorem agrees_resolve (host : String) :
    Agrees code id (resolve host) (resolve host) := by
  unfold resolve
  apply ((agrees_resolveHost host).mapError _).bind
  intro address
  apply (agrees_log _ _).bind
  intro _
  exact agrees_done address

theorem agrees_connect (settings : Settings) (address : String) (port : Int) :
    Agrees code id (connect settings address port)
      (connect settings address port) := by
  unfold connect
  apply ((agrees_setTimeout _).mapError _).bind
  intro _
  apply ((agrees_connectTo address port).mapError _).bind
  intro _
  apply ((agrees_setTimeout _).mapError _).bind
  intro _
  cases Number.writeInteger? port with
  | none => exact agrees_fail _
  | some number => exact agrees_log _ _

theorem agrees_sendRest (total : Nat) (rest : Octets) :
    Agrees code id (sendRest total rest) (sendRest total rest) := by
  induction hlength : rest.length using Nat.strong_induction_on
    generalizing rest with
  | _ length ih =>
      cases rest with
      | nil =>
          rw [sendRest]
          exact agrees_done ()
      | cons octet rest =>
          rw [sendRest]
          apply ((agrees_sendSome _).mapError _).bind
          intro count
          cases count with
          | zero => exact agrees_fail _
          | succ count =>
              apply ih (rest.drop count).length _ _ rfl
              rw [List.length_drop]
              rw [List.length_cons] at hlength
              omega

theorem agrees_send (octets : Octets) :
    Agrees code id (send octets) (send octets) := by
  unfold send
  apply (agrees_sendRest _ octets).bind
  intro _
  apply (agrees_log _ _).bind
  intro _
  exact agrees_done octets.length

theorem agrees_receiveInto (chunkSize : Int) (response : Response) :
    Agrees code (Prod.map (Response.recode code) id)
      (receiveInto chunkSize (response.recode code))
      (receiveInto chunkSize response) := by
  induction hfree : response.free using Nat.strong_induction_on
    generalizing response with
  | _ free ih =>
      -- The code keeps lengths, so both loops take the same branch at every call.
      rw [receiveInto, receiveInto, Response.isFull_recode,
        Response.received_recode]
      by_cases hfull : response.isFull = true
      · rw [if_pos hfull, if_pos hfull]
        exact agrees_done (response, none)
      · rw [if_neg hfull, if_neg hfull]
        apply (response.agrees_read chunkSize).attempt.bind
        intro answer
        cases answer with
        | error fault =>
            simp only [Except.map]
            split
            · apply (agrees_log _ _).bind
              intro _
              exact agrees_done (response, some fault)
            · exact agrees_fail _
        | ok octets =>
            cases octets with
            | nil => exact agrees_done (response, none)
            | cons octet rest =>
                have hopen : response.isFull = false := by simpa using hfull
                have hless : (response.append (octet :: rest)).free < free := by
                  rw [← hfree]
                  exact Response.free_append_lt hopen (List.cons_ne_nil _ _)
                have hrest := ih _ hless (response.append (octet :: rest)) rfl
                rw [← Response.append_recode] at hrest
                exact hrest

theorem agrees_receive [Memory] (settings : Settings) :
    Agrees code (Response.recode code) (receive settings) (receive settings) := by
  have hempty :
      ((Response.ofCapacity settings.responseLimit).mapError
          Stop.noBuffer).map (Response.recode code) =
        (Response.ofCapacity settings.responseLimit).mapError
          Stop.noBuffer := by
    cases hbuffer : Response.ofCapacity settings.responseLimit with
    | error refusal => rfl
    | ok empty =>
        rw [(Response.eq_of_ofCapacity hbuffer).2]
        rfl
  unfold receive
  apply (agrees_lift hempty).bind
  intro empty
  apply (agrees_receiveInto settings.chunkSize empty).bind
  rintro ⟨response, fault⟩
  simp only [Prod.map_apply, id_eq, Response.isFull_recode,
    Response.received_recode]
  split
  · exact agrees_fail _
  · cases fault with
    | some fault => exact agrees_fail _
    | none =>
        apply (agrees_log _ _).bind
        intro _
        exact agrees_done response

theorem agrees_converse [Memory] (settings : Settings) (request : Request)
    (octets : Octets) :
    Agrees code (Response.recode code) (converse settings request octets)
      (converse settings request octets) := by
  unfold converse
  apply (agrees_resolve _).bind
  intro address
  apply (agrees_connect settings address request.port).bind
  intro _
  apply (agrees_send octets).bind
  intro _
  exact agrees_receive settings

theorem afterClosing_map {α : Type} (value : α → α) (outcome : Except Stop α)
    (closed : Except Fault Unit) :
    (afterClosing outcome closed).map value =
      afterClosing (outcome.map value) closed := by
  cases closed with
  | ok _ => rfl
  | error fault =>
      simp only [afterClosing]
      split <;> rfl

theorem Agrees.closing {value : Response → Response}
    {first second : Action Stop Response}
    (haction : Agrees code value first second) :
    Agrees code value (closing first) (closing second) := by
  intro peer
  simp only [Exchange.closing, haction peer, Step.recode, afterClosing_map,
    Action.closeSocket]
  simp [Peer.recode, Event.recode]

theorem agrees_run [Memory] (settings : Settings) (request : Request) (octets : Octets) :
    Agrees code (Response.recode code) (run settings request octets)
      (run settings request octets) := by
  unfold run openSocket
  apply (agrees_openSocket.mapError _).bind
  intro _
  exact Agrees.closing (agrees_converse settings request octets)

end Exchange

end RawPost
