import RawPost.Proofs.Receiving
import RawPost.Proofs.Sending

/-!
# Conversations

What an exchange does between the opening and the closing of its socket depends on how far it comes: it is
over when the host has no address, when there is no connection, when not all octets could be sent, or when
there is a verdict on the response.  Each stage has one lemma that lists all it can do; later proofs go
through the cases of these lemmas and never open a stage again.
-/

namespace RawPost.Exchange

def resolvedNote (host address : String) : Event :=
  .logged .debug ("Resolved " ++ host ++ " to " ++ address)

def connectedNote (address : String) (port : Int) : Event :=
  .logged .debug
    ("Connected to " ++ address ++ ":" ++ Number.integerText port)

def sentNote (count : Nat) : Event :=
  .logged .debug ("Sent " ++ Number.integerText count ++ " bytes")

def receivedNote (count : Nat) : Event :=
  .logged .debug ("Received " ++ Number.integerText count ++ " bytes")

theorem resolve_eq_of_ok {host address : String} {peer : Peer}
    (hresolution : peer.resolution = .ok address) :
    resolve host peer =
      ⟨.ok address,
        [.resolved host (.ok address), resolvedNote host address], peer⟩ := by
  have hlookup : Action.resolveHost host peer =
      ⟨.ok address, [.resolved host (.ok address)], peer⟩ := by
    simp only [Action.resolveHost, hresolution]
  unfold resolve
  rw [Action.bind_eq_of_ok (Action.mapError_eq_of_ok _ hlookup)]
  rfl

theorem resolve_eq_of_error {host : String} {peer : Peer} {fault : Fault}
    (hresolution : peer.resolution = .error fault) :
    resolve host peer =
      ⟨.error (resolveStop host fault), [.resolved host (.error fault)],
        peer⟩ := by
  have hlookup : Action.resolveHost host peer =
      ⟨.error fault, [.resolved host (.error fault)], peer⟩ := by
    simp only [Action.resolveHost, hresolution]
  unfold resolve
  rw [Action.bind_eq_of_error (Action.mapError_eq_of_error _ hlookup)]

/-! ## Connecting -/

/-- All that connecting can do, by the call at which it ends. -/
inductive Connecting (settings : Settings) (address : String) (port : Int)
    (peer : Peer) : Step Stop Unit → Prop where
  | noConnectTimeout {fault : Fault} {after : Peer}
      (hfirst : peer.setTimeout = (.error fault, after)) :
      Connecting settings address port peer
        ⟨.error (.fault fault),
          [.timeoutSet settings.connectTimeout (.error fault)], after⟩
  | refused {fault : Fault} {after : Peer}
      (hfirst : peer.setTimeout = (.ok (), after))
      (hconnect : peer.connecting = .error fault) :
      Connecting settings address port peer
        ⟨.error (connectStop address port fault),
          [.timeoutSet settings.connectTimeout (.ok ()),
            .connected address port (.error fault)], after⟩
  | noReadTimeout {fault : Fault} {middle after : Peer}
      (hfirst : peer.setTimeout = (.ok (), middle))
      (hconnect : peer.connecting = .ok ())
      (hsecond : middle.setTimeout = (.error fault, after)) :
      Connecting settings address port peer
        ⟨.error (.fault fault),
          [.timeoutSet settings.connectTimeout (.ok ()),
            .connected address port (.ok ()),
            .timeoutSet settings.readTimeout (.error fault)], after⟩
  | unwritten {middle after : Peer}
      (hfirst : peer.setTimeout = (.ok (), middle))
      (hconnect : peer.connecting = .ok ())
      (hsecond : middle.setTimeout = (.ok (), after))
      (hport : ¬ Number.IsWritable port) :
      Connecting settings address port peer
        ⟨.error (.fault .unwritable),
          [.timeoutSet settings.connectTimeout (.ok ()),
            .connected address port (.ok ()),
            .timeoutSet settings.readTimeout (.ok ())], after⟩
  | connected {middle after : Peer}
      (hfirst : peer.setTimeout = (.ok (), middle))
      (hconnect : peer.connecting = .ok ())
      (hsecond : middle.setTimeout = (.ok (), after))
      (hport : Number.IsWritable port) :
      Connecting settings address port peer
        ⟨.ok (),
          [.timeoutSet settings.connectTimeout (.ok ()),
            .connected address port (.ok ()),
            .timeoutSet settings.readTimeout (.ok ()),
            connectedNote address port], after⟩

theorem connect_connecting (settings : Settings) (address : String)
    (port : Int) (peer : Peer) :
    Connecting settings address port peer
      (connect settings address port peer) := by
  rcases hfirst : peer.setTimeout with ⟨first, middle⟩
  have hmiddle : middle.connecting = peer.connecting := by
    simpa [hfirst] using Peer.setTimeout_connecting peer
  unfold connect
  cases first with
  | error fault =>
      rw [Action.bind_eq_of_error
        (Action.mapError_eq_of_error _ (Action.setTimeout_eq hfirst))]
      exact .noConnectTimeout hfirst
  | ok _ =>
      rw [Action.bind_eq_of_ok
        (Action.mapError_eq_of_ok _ (Action.setTimeout_eq hfirst))]
      cases hconnect : peer.connecting with
      | error fault =>
          have hcall : Action.connectTo address port middle =
              ⟨.error fault, [.connected address port (.error fault)],
                middle⟩ := by
            simp only [Action.connectTo, hmiddle, hconnect]
          rw [Action.bind_eq_of_error
            (Action.mapError_eq_of_error _ hcall)]
          exact .refused hfirst hconnect
      | ok _ =>
          have hcall : Action.connectTo address port middle =
              ⟨.ok (), [.connected address port (.ok ())], middle⟩ := by
            simp only [Action.connectTo, hmiddle, hconnect]
          rw [Action.bind_eq_of_ok (Action.mapError_eq_of_ok _ hcall)]
          rcases hsecond : middle.setTimeout with ⟨second, after⟩
          cases second with
          | error fault =>
              rw [Action.bind_eq_of_error
                (Action.mapError_eq_of_error _
                  (Action.setTimeout_eq hsecond))]
              exact .noReadTimeout hfirst hconnect hsecond
          | ok _ =>
              rw [Action.bind_eq_of_ok
                (Action.mapError_eq_of_ok _ (Action.setTimeout_eq hsecond)),
                Number.writeInteger?]
              by_cases hport : Number.IsWritable port
              · rw [if_pos hport]
                exact .connected hfirst hconnect hsecond hport
              · rw [if_neg hport]
                exact .unwritten hfirst hconnect hsecond hport

theorem Connecting.closing_eq {settings : Settings} {address : String}
    {port : Int} {peer : Peer} {step : Step Stop Unit}
    (hconnecting : Connecting settings address port peer step) :
    step.peer.closing = peer.closing := by
  have hkept (before after : Peer) (answer : Except Fault Unit)
      (hset : before.setTimeout = (answer, after)) :
      after.closing = before.closing := by
    simpa [hset] using Peer.setTimeout_closing before
  cases hconnecting with
  | noConnectTimeout hfirst => exact hkept _ _ _ hfirst
  | refused hfirst hconnect => exact hkept _ _ _ hfirst
  | noReadTimeout hfirst hconnect hsecond =>
      exact (hkept _ _ _ hsecond).trans (hkept _ _ _ hfirst)
  | unwritten hfirst hconnect hsecond =>
      exact (hkept _ _ _ hsecond).trans (hkept _ _ _ hfirst)
  | connected hfirst hconnect hsecond =>
      exact (hkept _ _ _ hsecond).trans (hkept _ _ _ hfirst)

/-! ## Sending and receiving -/

theorem send_eq_of_ok {octets : Octets} {peer after : Peer} {events : Trace}
    (hloop : sendRest octets.length octets peer = ⟨.ok (), events, after⟩) :
    send octets peer =
      ⟨.ok octets.length, events ++ [sentNote octets.length], after⟩ := by
  unfold send
  rw [Action.bind_eq_of_ok hloop]
  rfl

theorem send_eq_of_error {octets : Octets} {peer after : Peer}
    {events : Trace} {stop : Stop}
    (hloop : sendRest octets.length octets peer =
      ⟨.error stop, events, after⟩) :
    send octets peer = ⟨.error stop, events, after⟩ := by
  unfold send
  rw [Action.bind_eq_of_error hloop]

/-- All that receiving can do, by what its loop comes to. -/
inductive Reception [Memory] (settings : Settings) (peer : Peer) :
    Step Stop Response → Prop where
  | noBuffer {refusal : Response.Refusal}
      (hbuffer : Response.ofCapacity settings.responseLimit = .error refusal) :
      Reception settings peer ⟨.error (.noBuffer refusal), [], peer⟩
  | escaped {empty : Response} {stop : Stop} {events : Trace} {after : Peer}
      (hbuffer : Response.ofCapacity settings.responseLimit = .ok empty)
      (hloop : Receiving settings.chunkSize empty peer
        ⟨.error stop, events, after⟩) :
      Reception settings peer ⟨.error stop, events, after⟩
  | full {empty response : Response} {fault : Option Fault} {events : Trace}
      {after : Peer}
      (hbuffer : Response.ofCapacity settings.responseLimit = .ok empty)
      (hloop : Receiving settings.chunkSize empty peer
        ⟨.ok (response, fault), events, after⟩)
      (hfull : response.isFull = true) :
      Reception settings peer
        ⟨.error (.failure (.tooLarge response.capacity)), events, after⟩
  | faulty {empty response : Response} {fault : Fault} {events : Trace}
      {after : Peer}
      (hbuffer : Response.ofCapacity settings.responseLimit = .ok empty)
      (hloop : Receiving settings.chunkSize empty peer
        ⟨.ok (response, some fault), events, after⟩)
      (hfull : response.isFull = false) :
      Reception settings peer ⟨.error (receiveStop fault), events, after⟩
  | complete {empty response : Response} {events : Trace} {after : Peer}
      (hbuffer : Response.ofCapacity settings.responseLimit = .ok empty)
      (hloop : Receiving settings.chunkSize empty peer
        ⟨.ok (response, none), events, after⟩)
      (hfull : response.isFull = false) :
      Reception settings peer
        ⟨.ok response, events ++ [receivedNote response.received], after⟩

theorem receive_reception [Memory] (settings : Settings) (peer : Peer) :
    Reception settings peer (receive settings peer) := by
  unfold receive
  cases hbuffer : Response.ofCapacity settings.responseLimit with
  | error refusal =>
      have hlift : Action.lift
          (Except.mapError Stop.noBuffer
            (.error refusal : Except Response.Refusal Response)) peer =
          ⟨.error (.noBuffer refusal), [], peer⟩ := rfl
      rw [Action.bind_eq_of_error hlift]
      exact .noBuffer hbuffer
  | ok empty =>
      have hlift : Action.lift
          (Except.mapError Stop.noBuffer (.ok empty)) peer =
          ⟨.ok empty, [], peer⟩ := rfl
      rw [Action.bind_eq_of_ok hlift]
      have hloop := receiveInto_receiving settings.chunkSize empty peer
      rcases hstep : receiveInto settings.chunkSize empty peer with
        ⟨outcome, events, after⟩
      rw [hstep] at hloop
      cases outcome with
      | error stop =>
          rw [Action.bind_eq_of_error hstep]
          exact .escaped hbuffer hloop
      | ok result =>
          obtain ⟨response, fault⟩ := result
          rw [Action.bind_eq_of_ok hstep]
          by_cases hfull : response.isFull = true
          · simp only [hfull, if_true, Action.fail, List.append_nil,
              List.nil_append]
            exact .full hbuffer hloop hfull
          · have hopen : response.isFull = false := by simpa using hfull
            cases fault with
            | some fault =>
                simp only [hopen, Bool.false_eq_true, if_false, Action.fail,
                  List.append_nil, List.nil_append]
                exact .faulty hbuffer hloop hopen
            | none =>
                simp only [hopen, Bool.false_eq_true, if_false,
                  List.nil_append]
                exact .complete hbuffer hloop hopen

theorem Reception.closing_eq [Memory] {settings : Settings} {peer : Peer}
    {step : Step Stop Response} (hreception : Reception settings peer step) :
    step.peer.closing = peer.closing := by
  cases hreception with
  | noBuffer => rfl
  | escaped hbuffer hloop => exact hloop.closing_eq
  | full hbuffer hloop hfull => exact hloop.closing_eq
  | faulty hbuffer hloop hfull => exact hloop.closing_eq
  | complete hbuffer hloop hfull => exact hloop.closing_eq

/-! ## All stages -/

/-- All that can happen between opening and closing, by the stage at which it ends. -/
inductive Conversation [Memory] (settings : Settings) (request : Request)
    (octets : Octets) (peer : Peer) : Step Stop Response → Prop where
  | unresolved {fault : Fault} (hresolution : peer.resolution = .error fault) :
      Conversation settings request octets peer
        ⟨.error (resolveStop request.host fault),
          [.resolved request.host (.error fault)], peer⟩
  | unconnected {address : String} {stop : Stop} {connecting : Trace}
      {after : Peer}
      (hresolution : peer.resolution = .ok address)
      (hconnecting : Connecting settings address request.port peer
        ⟨.error stop, connecting, after⟩) :
      Conversation settings request octets peer
        ⟨.error stop,
          [.resolved request.host (.ok address),
            resolvedNote request.host address] ++ connecting, after⟩
  | unsent {address : String} {stop : Stop} {connecting sending : Trace}
      {middle after : Peer}
      (hresolution : peer.resolution = .ok address)
      (hconnecting : Connecting settings address request.port peer
        ⟨.ok (), connecting, middle⟩)
      (hsending : Sending octets.length octets middle
        ⟨.error stop, sending, after⟩) :
      Conversation settings request octets peer
        ⟨.error stop,
          [.resolved request.host (.ok address),
            resolvedNote request.host address] ++ (connecting ++ sending),
          after⟩
  | answered {address : String} {connecting sending : Trace}
      {middle late : Peer} {step : Step Stop Response}
      (hresolution : peer.resolution = .ok address)
      (hconnecting : Connecting settings address request.port peer
        ⟨.ok (), connecting, middle⟩)
      (hsending : Sending octets.length octets middle
        ⟨.ok (), sending, late⟩)
      (hreception : Reception settings late step) :
      Conversation settings request octets peer
        ⟨step.outcome,
          [.resolved request.host (.ok address),
            resolvedNote request.host address] ++
            (connecting ++
              (sending ++ [sentNote octets.length] ++ step.events)),
          step.peer⟩

theorem converse_conversation [Memory] (settings : Settings) (request : Request)
    (octets : Octets) (peer : Peer) :
    Conversation settings request octets peer
      (converse settings request octets peer) := by
  unfold converse
  cases hresolution : peer.resolution with
  | error fault =>
      rw [Action.bind_eq_of_error (resolve_eq_of_error hresolution)]
      exact .unresolved hresolution
  | ok address =>
      rw [Action.bind_eq_of_ok (resolve_eq_of_ok hresolution)]
      have hconnecting :=
        connect_connecting settings address request.port peer
      rcases hconnect : connect settings address request.port peer with
        ⟨connected, connecting, middle⟩
      rw [hconnect] at hconnecting
      cases connected with
      | error stop =>
          rw [Action.bind_eq_of_error hconnect]
          exact .unconnected hresolution hconnecting
      | ok _ =>
          rw [Action.bind_eq_of_ok hconnect]
          have hsending := sendRest_sending octets.length octets middle
          rcases hloop : sendRest octets.length octets middle with
            ⟨sent, sending, late⟩
          rw [hloop] at hsending
          cases sent with
          | error stop =>
              rw [Action.bind_eq_of_error (send_eq_of_error hloop)]
              exact .unsent hresolution hconnecting hsending
          | ok _ =>
              rw [Action.bind_eq_of_ok (send_eq_of_ok hloop)]
              exact .answered hresolution hconnecting hsending
                (receive_reception settings late)

theorem Conversation.closing_eq [Memory] {settings : Settings} {request : Request}
    {octets : Octets} {peer : Peer} {step : Step Stop Response}
    (hconversation : Conversation settings request octets peer step) :
    step.peer.closing = peer.closing := by
  cases hconversation with
  | unresolved => rfl
  | unconnected hresolution hconnecting => exact hconnecting.closing_eq
  | unsent hresolution hconnecting hsending =>
      exact hsending.closing_eq.trans hconnecting.closing_eq
  | answered hresolution hconnecting hsending hreception =>
      exact hreception.closing_eq.trans
        (hsending.closing_eq.trans hconnecting.closing_eq)

/-! ## Opening and closing -/

theorem afterClosing_of_system (outcome : Except Stop Response)
    {closed : Except Fault Unit}
    (hsystem : ∀ fault, closed = .error fault → fault.isSystem = true) :
    afterClosing outcome closed = outcome := by
  cases closed with
  | ok => rfl
  | error fault => simp [afterClosing, hsystem fault rfl]

theorem run_eq_of_opening_error [Memory] (settings : Settings) (request : Request)
    (octets : Octets) {peer : Peer} {fault : Fault}
    (hopening : peer.opening = .error fault) :
    run settings request octets peer =
      ⟨.error (openStop fault), [.opened (.error fault)], peer⟩ := by
  have hcall : Action.openSocket peer =
      ⟨.error fault, [.opened (.error fault)], peer⟩ := by
    simp only [Action.openSocket, hopening]
  unfold run openSocket
  rw [Action.bind_eq_of_error (Action.mapError_eq_of_error _ hcall)]

theorem run_eq_of_opening_ok [Memory] (settings : Settings) (request : Request)
    (octets : Octets) {peer : Peer} (hopening : peer.opening = .ok ()) :
    ∃ step, Conversation settings request octets peer step ∧
      run settings request octets peer =
        ⟨afterClosing step.outcome peer.closing,
          .opened (.ok ()) :: (step.events ++ [.closed peer.closing]),
          step.peer⟩ := by
  have hconversation :=
    converse_conversation settings request octets peer
  refine ⟨converse settings request octets peer, hconversation, ?_⟩
  have hcall : Action.openSocket peer =
      ⟨.ok (), [.opened (.ok ())], peer⟩ := by
    simp only [Action.openSocket, hopening]
  unfold run openSocket
  rw [Action.bind_eq_of_ok (Action.mapError_eq_of_ok _ hcall)]
  simp only [closing, Action.closeSocket, hconversation.closing_eq]
  rfl

end RawPost.Exchange
