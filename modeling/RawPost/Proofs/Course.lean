import RawPost.Proofs.Conversation

/-!
# The course of an exchange

The calls of an exchange come in a fixed order, whatever the peer answers: the socket is opened, the host
is resolved, the connection is made between two timeouts, the octets go out, the response comes in, and the
socket is closed.  A peer can only cut the course short, and then the closing comes next.

The calls between opening and closing are taken in three parts, the front, the sends and the receipts.
-/

namespace RawPost

/-- The address that the resolver gives, if it gives one. -/
def Peer.address (peer : Peer) : String :=
  match peer.resolution with
  | .ok address => address
  | .error _ => ""

namespace Exchange

/-- The calls before the first send, with the answers of the peer. -/
def preparation (settings : Settings) (request : Request) (peer : Peer) :
    Trace :=
  [.resolved request.host peer.resolution,
    .timeoutSet settings.connectTimeout peer.setTimeout.1,
    .connected peer.address request.port peer.connecting,
    .timeoutSet settings.readTimeout peer.setTimeout.2.setTimeout.1]

/-- The front is an initial part of the preparation; it is all of it, and all of it went well, once
anything is sent; all octets are out once anything is received; and nothing follows a broken call. -/
structure Course (settings : Settings) (request : Request) (octets : Octets)
    (peer : Peer) (front sends receipts : Trace) : Prop where
  front_isPrefix : front <+: preparation settings request peer
  isSend : ∀ event ∈ sends, event.isSend = true
  isReceive : ∀ event ∈ receipts, event.isReceive = true
  prepared : sends ++ receipts ≠ [] →
    front = preparation settings request peer ∧ front.Unbroken
  written_isPrefix : sends.written <+: octets
  whole : receipts ≠ [] → sends.written = octets
  stopsWhenBroken : (front ++ sends ++ receipts).StopsWhenBroken

variable {settings : Settings} {request : Request} {octets : Octets}
  {peer : Peer}

theorem Course.of_front {front : Trace}
    (hinitial : front <+: preparation settings request peer)
    (hstops : front.StopsWhenBroken) :
    Course settings request octets peer front [] [] := by
  constructor
  · exact hinitial
  · simp
  · simp
  · simp
  · simp
  · simp
  · simpa using hstops

theorem preparation_not_isClose :
    ∀ event ∈ preparation settings request peer, event.isClose = false := by
  simp [preparation, Event.isClose]

theorem Course.countP_isClose {front sends receipts : Trace}
    (hcourse : Course settings request octets peer front sends receipts) :
    (front ++ sends ++ receipts).countP Event.isClose = 0 := by
  rw [List.countP_eq_zero]
  intro event hmem hclose
  simp only [List.mem_append] at hmem
  rcases hmem with (hmem | hmem) | hmem
  · have hnot := preparation_not_isClose event
      (hcourse.front_isPrefix.subset hmem)
    rw [hclose] at hnot
    contradiction
  · obtain ⟨_, _, rfl⟩ :=
      Event.exists_of_isSend (hcourse.isSend event hmem)
    contradiction
  · obtain ⟨_, _, rfl⟩ :=
      Event.exists_of_isReceive (hcourse.isReceive event hmem)
    contradiction

theorem front_of_connecting_error {address : String} {stop : Stop}
    {connecting : Trace} {after : Peer}
    (hresolution : peer.resolution = .ok address)
    (hconnecting : Connecting settings address request.port peer
      ⟨.error stop, connecting, after⟩) :
    Event.resolved request.host (.ok address) :: connecting <+:
        preparation settings request peer ∧
      connecting.StopsWhenBroken ∧ connecting.calls = connecting := by
  have haddress : peer.address = address := by
    simp [Peer.address, hresolution]
  cases hconnecting with
  | noConnectTimeout hfirst =>
      refine ⟨?_, Trace.stopsWhenBroken_singleton _, rfl⟩
      simp [preparation, hresolution, hfirst]
  | refused hfirst hconnect =>
      refine ⟨?_, (Trace.stopsWhenBroken_singleton _).cons rfl, rfl⟩
      simp [preparation, hresolution, haddress, hfirst, hconnect]
  | noReadTimeout hfirst hconnect hsecond =>
      refine ⟨?_,
        ((Trace.stopsWhenBroken_singleton _).cons rfl).cons rfl, rfl⟩
      simp [preparation, hresolution, haddress, hfirst, hconnect, hsecond]
  | unwritten hfirst hconnect hsecond =>
      refine ⟨?_,
        ((Trace.stopsWhenBroken_singleton _).cons rfl).cons rfl, rfl⟩
      simp [preparation, hresolution, haddress, hfirst, hconnect, hsecond]

theorem preparation_of_connecting_ok {address : String} {connecting : Trace}
    {after : Peer}
    (hresolution : peer.resolution = .ok address)
    (hconnecting : Connecting settings address request.port peer
      ⟨.ok (), connecting, after⟩) :
    Event.resolved request.host (.ok address) :: connecting.calls =
        preparation settings request peer ∧
      (preparation settings request peer).Unbroken := by
  have haddress : peer.address = address := by
    simp [Peer.address, hresolution]
  cases hconnecting with
  | connected hfirst hconnect hsecond =>
      have hpreparation : preparation settings request peer =
          [.resolved request.host (.ok address),
            .timeoutSet settings.connectTimeout (.ok ()),
            .connected address request.port (.ok ()),
            .timeoutSet settings.readTimeout (.ok ())] := by
        simp [preparation, hresolution, haddress, hfirst, hconnect, hsecond]
      rw [hpreparation]
      refine ⟨rfl, ?_⟩
      simp [Trace.Unbroken, Event.isBroken, Event.fault?]

theorem calls_resolution (host address : String) (rest : Trace) :
    Trace.calls
        ([.resolved host (.ok address), resolvedNote host address] ++ rest) =
      .resolved host (.ok address) :: rest.calls := by
  rw [Trace.calls_append]
  rfl

theorem Sending.calls_eq_self {total : Nat} {rest : Octets}
    {step : Step Stop Unit} (hrun : Sending total rest peer step) :
    step.events.calls = step.events := by
  apply Trace.calls_eq_self
  intro event hmem
  obtain ⟨_, _, rfl⟩ := Event.exists_of_isSend (hrun.isSend event hmem)
  rfl

theorem Reception.isReceive [Memory] {step : Step Stop Response}
    (hreception : Reception settings peer step) :
    ∀ event ∈ step.events.calls, event.isReceive = true := by
  cases hreception with
  | noBuffer => simp
  | escaped hbuffer hloop => exact hloop.isReceive
  | full hbuffer hloop hfull => exact hloop.isReceive
  | faulty hbuffer hloop hfull => exact hloop.isReceive
  | complete hbuffer hloop hfull =>
      simpa [receivedNote] using hloop.isReceive

theorem Reception.stopsWhenBroken [Memory] {step : Step Stop Response}
    (hreception : Reception settings peer step) :
    step.events.calls.StopsWhenBroken := by
  cases hreception with
  | noBuffer => exact Trace.Unbroken.stopsWhenBroken (by simp [Trace.Unbroken])
  | escaped hbuffer hloop => exact hloop.stopsWhenBroken
  | full hbuffer hloop hfull => exact hloop.stopsWhenBroken
  | faulty hbuffer hloop hfull => exact hloop.stopsWhenBroken
  | complete hbuffer hloop hfull =>
      simpa [receivedNote] using hloop.stopsWhenBroken

theorem Conversation.course [Memory] {step : Step Stop Response}
    (hconversation : Conversation settings request octets peer step) :
    ∃ front sends receipts,
      step.events.calls = front ++ sends ++ receipts ∧
      Course settings request octets peer front sends receipts := by
  cases hconversation with
  | @unresolved fault hresolution =>
      refine ⟨[.resolved request.host (.error fault)], [], [], rfl, ?_⟩
      apply Course.of_front
      · simp [preparation, hresolution]
      · exact Trace.stopsWhenBroken_singleton _
  | @unconnected address stop connecting after hresolution hconnecting =>
      obtain ⟨hinitial, hstops, hcalls⟩ :=
        front_of_connecting_error hresolution hconnecting
      refine ⟨.resolved request.host (.ok address) :: connecting, [], [], ?_,
        Course.of_front hinitial (hstops.cons rfl)⟩
      rw [calls_resolution, hcalls]
      simp
  | @unsent address stop connecting sending middle after hresolution
      hconnecting hsending =>
      obtain ⟨hfront, hunbroken⟩ :=
        preparation_of_connecting_ok hresolution hconnecting
      refine ⟨preparation settings request peer, sending, [], ?_, ?_⟩
      · rw [calls_resolution, Trace.calls_append, hsending.calls_eq_self,
          ← hfront]
        simp
      · constructor
        · exact List.prefix_rfl
        · exact hsending.isSend
        · simp
        · intro _
          exact ⟨rfl, hunbroken⟩
        · exact hsending.written_isPrefix
        · simp
        · simpa using hsending.stopsWhenBroken.append hunbroken
  | @answered address connecting sending middle late step hresolution
      hconnecting hsending hreception =>
      obtain ⟨hfront, hunbroken⟩ :=
        preparation_of_connecting_ok hresolution hconnecting
      have hwritten := hsending.written_of_ok rfl
      refine ⟨preparation settings request peer, sending, step.events.calls,
        ?_, ?_⟩
      · rw [calls_resolution, Trace.calls_append, Trace.calls_append,
          Trace.calls_append, hsending.calls_eq_self, ← hfront]
        simp [sentNote]
      · constructor
        · exact List.prefix_rfl
        · exact hsending.isSend
        · exact hreception.isReceive
        · intro _
          exact ⟨rfl, hunbroken⟩
        · exact hsending.written_isPrefix
        · intro _
          exact hwritten
        · exact hreception.stopsWhenBroken.append
            (hunbroken.append (hsending.unbroken_of_ok rfl))

theorem run_calls_of_opening_error [Memory] (settings : Settings) (request : Request)
    (octets : Octets) {peer : Peer} {fault : Fault}
    (hopening : peer.opening = .error fault) :
    (run settings request octets peer).events.calls =
      [.opened (.error fault)] := by
  rw [run_eq_of_opening_error settings request octets hopening]
  rfl

theorem run_calls_of_opening_ok [Memory] (settings : Settings) (request : Request)
    (octets : Octets) {peer : Peer} (hopening : peer.opening = .ok ()) :
    ∃ front sends receipts,
      (run settings request octets peer).events.calls =
        .opened (.ok ()) ::
          (front ++ sends ++ receipts ++ [.closed peer.closing]) ∧
      Course settings request octets peer front sends receipts := by
  obtain ⟨step, hconversation, hrun⟩ :=
    run_eq_of_opening_ok settings request octets hopening
  obtain ⟨front, sends, receipts, hcalls, hcourse⟩ := hconversation.course
  refine ⟨front, sends, receipts, ?_, hcourse⟩
  rw [hrun, Trace.calls_cons rfl, Trace.calls_append, hcalls]
  rfl

/-- The calls of a whole exchange.  A socket that was not opened is not closed; one that was opened is
closed once, at the end, and in between the exchange keeps to its course. -/
theorem run_keeps_course [Memory] (settings : Settings) (request : Request)
    (octets : Octets) (peer : Peer) :
    let calls := (run settings request octets peer).events.calls
    (∀ fault, peer.opening = .error fault →
      calls = [.opened (.error fault)]) ∧
    (peer.opening = .ok () →
      calls.countP Event.isClose = 1 ∧
      ∃ front sends receipts,
        calls = .opened (.ok ()) ::
          (front ++ sends ++ receipts ++ [.closed peer.closing]) ∧
        Course settings request octets peer front sends receipts) := by
  constructor
  · intro fault hopening
    exact run_calls_of_opening_error settings request octets hopening
  · intro hopening
    obtain ⟨front, sends, receipts, hcalls, hcourse⟩ :=
      run_calls_of_opening_ok settings request octets hopening
    refine ⟨?_, front, sends, receipts, hcalls, hcourse⟩
    rw [hcalls, List.countP_cons, List.countP_append, hcourse.countP_isClose]
    rfl

/-- A connection that is reset after two octets. -/
theorem run_keeps_course_until_reset :
    let request : Request :=
      { method := "POST", host := "h", port := 80, path := "/" }
    let peer : Peer :=
      { sends := [.ok 2, .error ⟨.system .reset, "reset"⟩] }
    let calls := (run Settings.defaults request [1, 2, 3] peer).events.calls
    peer.opening = .ok () ∧
      calls.countP Event.isClose = 1 ∧
      ∃ front sends receipts,
        calls = .opened (.ok ()) ::
          (front ++ sends ++ receipts ++ [.closed peer.closing]) ∧
        Course Settings.defaults request [1, 2, 3] peer front sends
          receipts := by
  intro request peer calls
  refine ⟨rfl, ?_⟩
  exact (run_keeps_course Settings.defaults request [1, 2, 3] peer).2 rfl

end Exchange

end RawPost
