import RawPost.Proofs.Course

/-!
# The calls before the first send

The host is looked up, the timeouts are set and the connection is made before anything is sent, and never
again.  So of an exchange, whatever the peer answers, the calls of these three kinds are an initial part of
its preparation, and one that is broken is the last of them.
-/

namespace RawPost

namespace Event

def isResolution : Event → Bool
  | .resolved _ _ => true
  | _ => false

def isConnection : Event → Bool
  | .connected _ _ _ => true
  | _ => false

/-- Calls that only prepare the exchange of octets. -/
def isPreparing (event : Event) : Bool :=
  event.isResolution || event.isTimeoutSet || event.isConnection

end Event

theorem Trace.StopsWhenBroken.of_append_left {first second : Trace}
    (hwhole : (first ++ second).StopsWhenBroken) : first.StopsWhenBroken := by
  rintro before event after rfl hbroken
  have hnone := hwhole before event (after ++ second) (by simp) hbroken
  exact (List.append_eq_nil_iff.mp hnone).1

theorem Trace.filter_isPreparing_calls (trace : Trace) :
    trace.calls.filter Event.isPreparing = trace.filter Event.isPreparing := by
  unfold Trace.calls
  rw [List.filter_filter]
  apply List.filter_congr
  intro event _
  cases event <;> rfl

namespace Exchange

variable {settings : Settings} {request : Request} {octets : Octets}
  {peer : Peer}

theorem Course.filter_isPreparing {front sends receipts : Trace}
    (hcourse : Course settings request octets peer front sends receipts) :
    (front ++ sends ++ receipts).filter Event.isPreparing = front := by
  have hfront : front.filter Event.isPreparing = front := by
    rw [List.filter_eq_self]
    intro event hmem
    have hprepared : ∀ other ∈ preparation settings request peer,
        other.isPreparing = true := by
      simp [preparation, Event.isPreparing, Event.isResolution,
        Event.isTimeoutSet, Event.isConnection]
    exact hprepared event (hcourse.front_isPrefix.subset hmem)
  have hsends : sends.filter Event.isPreparing = [] := by
    rw [List.filter_eq_nil_iff]
    intro event hmem
    obtain ⟨_, _, rfl⟩ :=
      Event.exists_of_isSend (hcourse.isSend event hmem)
    exact Bool.false_ne_true
  have hreceipts : receipts.filter Event.isPreparing = [] := by
    rw [List.filter_eq_nil_iff]
    intro event hmem
    obtain ⟨_, _, rfl⟩ :=
      Event.exists_of_isReceive (hcourse.isReceive event hmem)
    exact Bool.false_ne_true
  rw [List.filter_append, List.filter_append, hfront, hsends, hreceipts,
    List.append_nil, List.append_nil]

/-- The preparing calls of an exchange, and that nothing follows a broken one of them. -/
theorem run_preparing [Memory] (settings : Settings) (request : Request)
    (octets : Octets) (peer : Peer) :
    let preparing : Trace :=
      (run settings request octets peer).events.filter Event.isPreparing
    preparing <+: preparation settings request peer ∧
      preparing.StopsWhenBroken := by
  intro preparing
  cases hopening : peer.opening with
  | error fault =>
      have hnone : preparing = [] := by
        simp only [preparing]
        rw [← Trace.filter_isPreparing_calls,
          run_calls_of_opening_error settings request octets hopening]
        rfl
      rw [hnone]
      exact ⟨List.nil_prefix,
        Trace.Unbroken.stopsWhenBroken (List.forall_mem_nil _)⟩
  | ok _ =>
      obtain ⟨front, sends, receipts, hcalls, hcourse⟩ :=
        run_calls_of_opening_ok settings request octets hopening
      have hfront : preparing = front := by
        simp only [preparing]
        rw [← Trace.filter_isPreparing_calls, hcalls,
          List.filter_cons_of_neg Bool.false_ne_true, List.filter_append,
          hcourse.filter_isPreparing,
          List.filter_cons_of_neg Bool.false_ne_true, List.filter_nil,
          List.append_nil]
      have hstops := hcourse.stopsWhenBroken
      rw [List.append_assoc] at hstops
      rw [hfront]
      exact ⟨hcourse.front_isPrefix, hstops.of_append_left⟩

theorem mem_preparation_of_mem_run [Memory] {event : Event}
    (hmem : event ∈ (run settings request octets peer).events)
    (hkind : event.isPreparing = true) :
    event ∈ preparation settings request peer := by
  obtain ⟨hinitial, -⟩ := run_preparing settings request octets peer
  exact hinitial.subset (List.mem_filter.mpr ⟨hmem, hkind⟩)

/-- A kind of call that comes once in the preparation comes at most once in an exchange. -/
theorem run_countP_le [Memory] (settings : Settings) (request : Request)
    (octets : Octets) (peer : Peer) {kind : Event → Bool}
    (hkind : ∀ event, kind event = true → event.isPreparing = true) :
    (run settings request octets peer).events.countP kind ≤
      (preparation settings request peer).countP kind := by
  obtain ⟨hinitial, -⟩ := run_preparing settings request octets peer
  have hfilter : ((run settings request octets peer).events.filter
      Event.isPreparing).countP kind =
      (run settings request octets peer).events.countP kind := by
    rw [List.countP_filter]
    apply List.countP_congr
    intro event _
    have hevent := hkind event
    cases hcall : kind event <;> simp_all
  rw [← hfilter]
  exact hinitial.sublist.countP_le

/-- Before a connection is made, the resolver has given its address. -/
theorem resolved_of_connected [Memory] {address : String} {port : Int}
    {answer : Except Fault Unit}
    (hmem : .connected address port answer ∈
      (run settings request octets peer).events) :
    port = request.port ∧
      .resolved request.host (.ok address) ∈
        (run settings request octets peer).events := by
  obtain ⟨hinitial, hstops⟩ := run_preparing settings request octets peer
  have hpreparing : .connected address port answer ∈
      (run settings request octets peer).events.filter Event.isPreparing :=
    List.mem_filter.mpr ⟨hmem, rfl⟩
  obtain ⟨haddress, hport⟩ : address = peer.address ∧ port = request.port := by
    have hprepared := hinitial.subset hpreparing
    simp only [preparation, List.mem_cons, reduceCtorEq, Event.connected.injEq,
      List.not_mem_nil, or_false, false_or] at hprepared
    exact ⟨hprepared.1, hprepared.2.1⟩
  refine ⟨hport, ?_⟩
  rcases List.prefix_cons_iff.mp hinitial with hnone | ⟨rest, hfirst, -⟩
  · rw [hnone] at hpreparing
    contradiction
  have hresolved : .resolved request.host peer.resolution ∈
      (run settings request octets peer).events := by
    apply List.mem_of_mem_filter (p := Event.isPreparing)
    rw [hfirst]
    exact List.mem_cons_self
  cases hresolution : peer.resolution with
  | error fault =>
      -- A broken resolution would be the last of these calls, but the connection follows it.
      rw [hresolution] at hfirst
      have hlast := hstops [] _ rest hfirst rfl
      rw [hfirst, hlast] at hpreparing
      simp at hpreparing
  | ok given =>
      have hgiven : address = given := by
        rw [haddress, Peer.address, hresolution]
      rwa [hgiven, ← hresolution]

/-! ## What has to happen -/

theorem Connecting.mem_events {address : String} {port : Int}
    {step : Step Stop Unit}
    (hconnecting : Connecting settings address port peer step)
    (hset : peer.setTimeout.1 = .ok ()) :
    .connected address port peer.connecting ∈ step.events := by
  cases hconnecting with
  | noConnectTimeout hfirst => simp [hfirst] at hset
  | refused hfirst hconnect => simp [hconnect]
  | noReadTimeout hfirst hconnect hsecond => simp [hconnect]
  | unwritten hfirst hconnect hsecond => simp [hconnect]
  | connected hfirst hconnect hsecond => simp [hconnect]

theorem Conversation.resolved_mem [Memory] {step : Step Stop Response}
    (hconversation : Conversation settings request octets peer step) :
    .resolved request.host peer.resolution ∈ step.events := by
  cases hconversation with
  | unresolved hresolution => simp [hresolution]
  | unconnected hresolution => simp [hresolution]
  | unsent hresolution => simp [hresolution]
  | answered hresolution => simp [hresolution]

theorem Conversation.connected_mem [Memory] {step : Step Stop Response}
    {address : String}
    (hconversation : Conversation settings request octets peer step)
    (hgiven : peer.resolution = .ok address)
    (hset : peer.setTimeout.1 = .ok ()) :
    .connected address request.port peer.connecting ∈ step.events := by
  cases hconversation with
  | unresolved hresolution =>
      rw [hresolution] at hgiven
      contradiction
  | unconnected hresolution hconnecting =>
      rw [hresolution, Except.ok.injEq] at hgiven
      subst hgiven
      have hmem := hconnecting.mem_events hset
      exact List.mem_append_right _ hmem
  | unsent hresolution hconnecting hsending =>
      rw [hresolution, Except.ok.injEq] at hgiven
      subst hgiven
      have hmem := hconnecting.mem_events hset
      exact List.mem_append_right _ (List.mem_append_left _ hmem)
  | answered hresolution hconnecting hsending hreception =>
      rw [hresolution, Except.ok.injEq] at hgiven
      subst hgiven
      have hmem := hconnecting.mem_events hset
      exact List.mem_append_right _ (List.mem_append_left _ hmem)

/-- On an open socket the host is looked up, and if it has an address and the timeout can be set, the
connection is tried. -/
theorem run_prepares [Memory] (settings : Settings) (request : Request)
    (octets : Octets) {peer : Peer} (hopening : peer.opening = .ok ()) :
    .resolved request.host peer.resolution ∈
        (run settings request octets peer).events ∧
      ∀ address, peer.resolution = .ok address →
        peer.setTimeout.1 = .ok () →
          .connected address request.port peer.connecting ∈
            (run settings request octets peer).events := by
  obtain ⟨step, hconversation, hrun⟩ :=
    run_eq_of_opening_ok settings request octets hopening
  have hwhole {event : Event} (hmem : event ∈ step.events) :
      event ∈ (run settings request octets peer).events := by
    rw [hrun]
    exact List.mem_cons_of_mem _ (List.mem_append_left _ hmem)
  refine ⟨hwhole hconversation.resolved_mem, ?_⟩
  intro address hgiven hset
  exact hwhole (hconversation.connected_mem hgiven hset)

end Exchange

end RawPost
