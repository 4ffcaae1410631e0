import RawPost.Proofs.Course
import RawPost.Proofs.Stream

/-!
# What goes over the wire

The octets that a socket accepts in an exchange are an initial part of the octets of the request, and they
are all of them before anything is received.  When an exchange gives a response, all of the request is out
and the response is what was delivered.
-/

namespace RawPost.Exchange

variable {settings : Settings} {request : Request} {octets : Octets}
  {peer : Peer} {front sends receipts : Trace}

/-! ## Along the course -/

theorem preparation_not_isSend :
    ∀ event ∈ preparation settings request peer, event.isSend = false := by
  simp [preparation, Event.isSend]

theorem preparation_not_isReceive :
    ∀ event ∈ preparation settings request peer,
      event.isReceive = false := by
  simp [preparation, Event.isReceive]

theorem Course.written_front
    (hcourse : Course settings request octets peer front sends receipts) :
    front.written = [] := by
  apply Trace.written_eq_nil
  intro event hmem
  exact preparation_not_isSend event (hcourse.front_isPrefix.subset hmem)

theorem Course.receipts_not_isSend
    (hcourse : Course settings request octets peer front sends receipts) :
    ∀ event ∈ receipts, event.isSend = false := by
  intro event hmem
  obtain ⟨_, _, rfl⟩ :=
    Event.exists_of_isReceive (hcourse.isReceive event hmem)
  rfl

theorem Course.written_eq
    (hcourse : Course settings request octets peer front sends receipts) :
    (front ++ sends ++ receipts).written = sends.written := by
  have hreceipts := Trace.written_eq_nil hcourse.receipts_not_isSend
  rw [Trace.written_append, Trace.written_append, hcourse.written_front,
    hreceipts, List.nil_append, List.append_nil]

theorem Course.early_not_isReceive
    (hcourse : Course settings request octets peer front sends receipts) :
    ∀ event ∈ front ++ sends, event.isReceive = false := by
  intro event hmem
  rcases List.mem_append.mp hmem with hmem | hmem
  · exact preparation_not_isReceive event
      (hcourse.front_isPrefix.subset hmem)
  · obtain ⟨_, _, rfl⟩ :=
      Event.exists_of_isSend (hcourse.isSend event hmem)
    rfl

/-- A trace that begins without receipts has all of that beginning before its first receipt. -/
theorem exists_middle_of_isReceive {early late before after : Trace}
    {event : Event}
    (hearly : ∀ other ∈ early, other.isReceive = false)
    (hreceive : event.isReceive = true)
    (hsplit : early ++ late = before ++ event :: after) :
    ∃ middle, before = early ++ middle ∧ late = middle ++ event :: after := by
  rcases List.append_eq_append_iff.mp hsplit with
    ⟨middle, hbefore, hlate⟩ | ⟨middle, hbefore, hlate⟩
  · exact ⟨middle, hbefore, hlate⟩
  · cases middle with
    | nil => exact ⟨[], by simpa using hbefore.symm, by simpa using hlate.symm⟩
    | cons other middle =>
        have hother : event = other := by simp_all
        have hnot := hearly event (by simp [hbefore, hother])
        rw [hreceive] at hnot
        contradiction

theorem Course.written_before_receipt {opening closing : Except Fault Unit}
    {before after : Trace} {event : Event}
    (hcourse : Course settings request octets peer front sends receipts)
    (hreceive : event.isReceive = true)
    (hsplit : .opened opening ::
        (front ++ sends ++ receipts ++ [.closed closing]) =
      before ++ event :: after) :
    before.written = octets := by
  have hearly : ∀ other ∈ .opened opening :: (front ++ sends),
      other.isReceive = false := by
    intro other hmem
    rcases List.mem_cons.mp hmem with rfl | hmem
    · rfl
    · exact hcourse.early_not_isReceive other hmem
  have hparts : .opened opening :: (front ++ sends) ++
      (receipts ++ [.closed closing]) = before ++ event :: after := by
    simpa using hsplit
  obtain ⟨middle, hbefore, hlate⟩ :=
    exists_middle_of_isReceive hearly hreceive hparts
  have hmiddle : middle.written = [] := by
    apply Trace.written_eq_nil
    intro other hmem
    have hother : other ∈ receipts ++ [.closed closing] := by
      rw [hlate]
      exact List.mem_append_left _ hmem
    rcases List.mem_append.mp hother with hother | hother
    · exact hcourse.receipts_not_isSend other hother
    · rw [List.mem_singleton.mp hother]
      rfl
  have hreceipts : receipts ≠ [] := by
    rintro rfl
    have hclosed : event ∈ [.closed closing] := by
      rw [← List.nil_append [Event.closed closing], hlate]
      simp
    rw [List.mem_singleton.mp hclosed] at hreceive
    contradiction
  rw [hbefore, Trace.written_append, hmiddle, Trace.written_cons,
    Trace.written_append, hcourse.written_front, hcourse.whole hreceipts]
  simp [Event.written]

/-! ## In a whole exchange -/

theorem run_calls_ne_nil [Memory] (settings : Settings) (request : Request)
    (octets : Octets) (peer : Peer) :
    (run settings request octets peer).events.calls ≠ [] := by
  cases hopening : peer.opening with
  | error fault =>
      rw [run_calls_of_opening_error settings request octets hopening]
      exact List.cons_ne_nil _ _
  | ok _ =>
      obtain ⟨front, sends, receipts, hcalls, _⟩ :=
        run_calls_of_opening_ok settings request octets hopening
      rw [hcalls]
      exact List.cons_ne_nil _ _

theorem run_written_isPrefix [Memory] (settings : Settings) (request : Request)
    (octets : Octets) (peer : Peer) :
    (run settings request octets peer).events.written <+: octets := by
  rw [← Trace.written_calls]
  cases hopening : peer.opening with
  | error fault =>
      rw [run_calls_of_opening_error settings request octets hopening]
      exact List.nil_prefix
  | ok _ =>
      obtain ⟨front, sends, receipts, hcalls, hcourse⟩ :=
        run_calls_of_opening_ok settings request octets hopening
      rw [hcalls, Trace.written_cons, Trace.written_append,
        hcourse.written_eq]
      simpa [Event.written] using hcourse.written_isPrefix

theorem run_written_before_receipt [Memory] {before after : Trace} {event : Event}
    (hevents : (run settings request octets peer).events =
      before ++ event :: after)
    (hreceive : event.isReceive = true) :
    before.written = octets := by
  have hlogged : event.isLogged = false := by
    obtain ⟨_, _, rfl⟩ := Event.exists_of_isReceive hreceive
    rfl
  have hcalls : (run settings request octets peer).events.calls =
      before.calls ++ event :: after.calls := by
    rw [hevents, Trace.calls_append, Trace.calls_cons hlogged]
  rw [← Trace.written_calls]
  cases hopening : peer.opening with
  | error fault =>
      rw [run_calls_of_opening_error settings request octets hopening]
        at hcalls
      have hmem : event ∈ [.opened (.error fault)] := by simp [hcalls]
      rw [List.mem_singleton.mp hmem] at hreceive
      contradiction
  | ok _ =>
      obtain ⟨front, sends, receipts, hshape, hcourse⟩ :=
        run_calls_of_opening_ok settings request octets hopening
      rw [hshape] at hcalls
      exact hcourse.written_before_receipt hreceive hcalls

/-! ## With a response -/

theorem Connecting.octets_eq_nil {address : String} {port : Int}
    {step : Step Stop Unit}
    (hconnecting : Connecting settings address port peer step) :
    step.events.written = [] ∧ step.events.delivered = [] := by
  cases hconnecting <;> exact ⟨rfl, rfl⟩

theorem Sending.delivered_eq_nil {total : Nat} {rest : Octets}
    {step : Step Stop Unit} (hrun : Sending total rest peer step) :
    step.events.delivered = [] := by
  apply Trace.delivered_eq_nil
  intro event hmem
  obtain ⟨_, _, rfl⟩ := Event.exists_of_isSend (hrun.isSend event hmem)
  rfl

theorem Reception.written_eq_nil [Memory] {step : Step Stop Response}
    (hreception : Reception settings peer step) :
    step.events.written = [] := by
  rw [← Trace.written_calls]
  apply Trace.written_eq_nil
  intro event hmem
  obtain ⟨_, _, rfl⟩ :=
    Event.exists_of_isReceive (hreception.isReceive event hmem)
  rfl

theorem Reception.delivered_of_ok [Memory] {step : Step Stop Response}
    {response : Response} (hreception : Reception settings peer step)
    (hok : step.outcome = .ok response) :
    step.events.delivered = response.octets := by
  cases hreception with
  | noBuffer => simp at hok
  | escaped => simp at hok
  | full => simp at hok
  | faulty => simp at hok
  | @complete empty last events after hbuffer hloop hfull =>
      have hlast : last = empty.append events.delivered :=
        hloop.response_of_ok rfl
      have hempty := (Response.eq_of_ofCapacity hbuffer).2
      simp only [Except.ok.injEq] at hok
      rw [← hok, hlast, hempty]
      simp [Response.append, receivedNote, Event.delivered]

theorem Conversation.octets_of_ok [Memory] {step : Step Stop Response}
    {response : Response}
    (hconversation : Conversation settings request octets peer step)
    (hok : step.outcome = .ok response) :
    step.events.written = octets ∧
      step.events.delivered = response.octets := by
  cases hconversation with
  | unresolved => simp at hok
  | unconnected => simp at hok
  | unsent => simp at hok
  | answered hresolution hconnecting hsending hreception =>
      obtain ⟨hnoneWritten, hnoneDelivered⟩ := hconnecting.octets_eq_nil
      have hsent := hsending.written_of_ok rfl
      have hreceived := hreception.delivered_of_ok hok
      simp only at hnoneWritten hnoneDelivered hsent
      constructor
      · simp [Event.written, resolvedNote, sentNote, hnoneWritten, hsent,
          hreception.written_eq_nil]
      · simp [Event.delivered, resolvedNote, sentNote, hnoneDelivered,
          hsending.delivered_eq_nil, hreceived]

theorem afterClosing_eq_ok {α : Type} {outcome : Except Stop α}
    {closed : Except Fault Unit} {a : α}
    (hok : afterClosing outcome closed = .ok a) :
    outcome = .ok a := by
  cases closed with
  | ok _ => exact hok
  | error fault =>
      by_cases hsystem : fault.isSystem = true
      · simpa [afterClosing, hsystem] using hok
      · simp [afterClosing, hsystem] at hok

/-- Behind a response stand the octets that were sent and those that were delivered. -/
theorem run_octets_of_ok [Memory] {response : Response}
    (hok : (run settings request octets peer).outcome = .ok response) :
    (run settings request octets peer).events.written = octets ∧
      (run settings request octets peer).events.delivered =
        response.octets := by
  cases hopening : peer.opening with
  | error fault =>
      rw [run_eq_of_opening_error settings request octets hopening] at hok
      simp at hok
  | ok _ =>
      obtain ⟨step, hconversation, hrun⟩ :=
        run_eq_of_opening_ok settings request octets hopening
      rw [hrun] at hok ⊢
      obtain ⟨hwritten, hdelivered⟩ :=
        hconversation.octets_of_ok (afterClosing_eq_ok hok)
      constructor
      · simp [Event.written, hwritten]
      · simp [Event.delivered, hdelivered]

end RawPost.Exchange
