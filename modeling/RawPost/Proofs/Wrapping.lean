import RawPost.Proofs.Course
import RawPost.Proofs.Reception

/-!
# Faults of the system

A fault of the system should leave an exchange as a failure of the stage that met it.  The timeouts of the
connection are set outside of what any stage treats, so a fault of theirs leaves as it is; a buffer that is
refused is no failure of a stage either.  These are the only two ways out.
-/

namespace RawPost

/-- What a failure at a call is about. -/
def Event.concerns : Event → List Concern
  | .opened _ => [.socket]
  | .resolved _ _ => [.resolution]
  | .timeoutSet _ _ | .connected _ _ _ => [.connecting]
  | .sent _ _ => [.writing]
  | .received _ _ => [.reading, .capacity]
  | .closed _ | .logged _ _ => []

def Event.timeoutFault? : Event → Option Fault
  | .timeoutSet _ (.error fault) => some fault
  | _ => none

def Trace.timeoutFaults (trace : Trace) : List Fault :=
  trace.filterMap Event.timeoutFault?

/-- Every call was answered without a fault, the closing of the socket apart. -/
def Trace.WentWell (trace : Trace) : Prop :=
  ∀ event ∈ trace, event.isClose = false → event.isBroken = false

/-- All faults that were met are the system's. -/
def Trace.OnlySystemFaults (trace : Trace) : Prop :=
  ∀ event ∈ trace, ∀ fault, event.fault? = some fault →
    fault.isSystem = true

namespace Trace

@[simp] theorem timeoutFaults_append (first second : Trace) :
    timeoutFaults (first ++ second) =
      timeoutFaults first ++ timeoutFaults second :=
  List.filterMap_append

theorem timeoutFaults_eq_nil {trace : Trace}
    (htimeouts : ∀ event ∈ trace, event.isTimeoutSet = false) :
    trace.timeoutFaults = [] := by
  unfold timeoutFaults
  rw [List.filterMap_eq_nil_iff]
  intro event hmem
  have htimeout := htimeouts event hmem
  cases event <;> simp_all [Event.isTimeoutSet, Event.timeoutFault?]

theorem Unbroken.wentWell {trace : Trace} (hunbroken : trace.Unbroken) :
    trace.WentWell :=
  fun event hmem _ => hunbroken event hmem

theorem WentWell.append {first second : Trace} (hfirst : first.WentWell)
    (hsecond : second.WentWell) :
    (first ++ second).WentWell := by
  intro event hmem hclose
  rcases List.mem_append.mp hmem with hmem | hmem
  · exact hfirst event hmem hclose
  · exact hsecond event hmem hclose

theorem wentWell_closed (closed : Except Fault Unit) :
    WentWell [.closed closed] := by
  intro event hmem hclose
  rw [List.mem_singleton.mp hmem] at hclose
  contradiction

theorem WentWell.timeoutFaults_eq_nil {trace : Trace}
    (hwell : trace.WentWell) :
    trace.timeoutFaults = [] := by
  unfold timeoutFaults
  rw [List.filterMap_eq_nil_iff]
  intro event hmem
  have hwhole := hwell event hmem
  unfold Event.timeoutFault?
  split
  · simp [Event.isClose, Event.isBroken, Event.fault?] at hwhole
  · rfl

theorem OnlySystemFaults.of_subset {part trace : Trace}
    (hsystem : trace.OnlySystemFaults) (hsubset : part ⊆ trace) :
    part.OnlySystemFaults :=
  fun event hmem => hsystem event (hsubset hmem)

theorem OnlySystemFaults.of_lastCall? {trace : Trace} {event : Event}
    {fault : Fault} (hsystem : trace.OnlySystemFaults)
    (hlast : trace.lastCall? = some event)
    (hfault : event.fault? = some fault) :
    fault.isSystem = true :=
  hsystem event (mem_of_lastCall? hlast).1 fault hfault

end Trace

namespace Exchange

theorem openStop_of_system {fault : Fault} (hsystem : fault.isSystem = true) :
    openStop fault = .failure (.notOpened fault) := by
  simp [openStop, Stop.ofSystem, hsystem]

theorem resolveStop_of_system {host : String} {fault : Fault}
    (hsystem : fault.isSystem = true) :
    resolveStop host fault = .failure (.notResolved host fault) := by
  simp [resolveStop, Stop.ofSystem, hsystem]

theorem Stop.ofPort_of_isWritable {port : Int} (hport : Number.IsWritable port)
    (failure : Failure) :
    Stop.ofPort port failure = .failure failure :=
  if_pos hport

theorem connectStop_of_system (address : String) {port : Int} {fault : Fault}
    (hport : Number.IsWritable port) (hsystem : fault.isSystem = true) :
    ∃ failure, connectStop address port fault = .failure failure ∧
      failure.concern = .connecting := by
  simp only [connectStop, Stop.ofPort_of_isWritable hport, if_pos hsystem]
  split
  · exact ⟨_, rfl, rfl⟩
  split
  · exact ⟨_, rfl, rfl⟩
  · exact ⟨.notConnected address port fault, rfl, rfl⟩

theorem sendStop_of_system (sent total : Nat) {fault : Fault}
    (hsystem : fault.isSystem = true) :
    ∃ failure, sendStop sent total fault = .failure failure ∧
      failure.concern = .writing := by
  unfold sendStop
  split
  · exact ⟨_, rfl, rfl⟩
  · exact ⟨.notSent fault, by simp [Stop.ofSystem, hsystem], rfl⟩

/-- The ways in which an exchange can end if all faults are the system's. -/
inductive Settled [Memory] (settings : Settings) (step : Step Stop Response) :
    Prop where
  | answered {response empty : Response}
      (houtcome : step.outcome = .ok response)
      (hbuffer : Response.ofCapacity settings.responseLimit = .ok empty)
      (hwell : step.events.WentWell)
  | failed {failure : Failure} {event : Event}
      (houtcome : step.outcome = .error (.failure failure))
      (hlast : step.events.lastCall? = some event)
      (hconcern : failure.concern ∈ event.concerns)
      (hquiet : step.events.timeoutFaults = [])
      (hcause : event.isBroken = true ∨
        ∃ empty, Response.ofCapacity settings.responseLimit = .ok empty)
  | escaped {fault : Fault}
      (houtcome : step.outcome = .error (.fault fault))
      (hfaults : step.events.timeoutFaults = [fault])
  | noBuffer {refusal : Response.Refusal}
      (houtcome : step.outcome = .error (.noBuffer refusal))
      (hbuffer : Response.ofCapacity settings.responseLimit = .error refusal)
      (hwell : step.events.WentWell)

variable {settings : Settings} {request : Request} {octets : Octets}
  {peer : Peer}

theorem Sending.timeoutFaults_eq_nil {total : Nat} {rest : Octets}
    {step : Step Stop Unit} (hrun : Sending total rest peer step) :
    step.events.timeoutFaults = [] := by
  apply Trace.timeoutFaults_eq_nil
  intro event hmem
  obtain ⟨_, _, rfl⟩ := Event.exists_of_isSend (hrun.isSend event hmem)
  rfl

theorem Reception.timeoutFaults_eq_nil [Memory] {step : Step Stop Response}
    (hreception : Reception settings peer step) :
    step.events.timeoutFaults = [] := by
  apply Trace.timeoutFaults_eq_nil
  intro event hmem
  cases hlogged : event.isLogged with
  | true => cases event <;> simp_all [Event.isLogged, Event.isTimeoutSet]
  | false =>
      obtain ⟨_, _, rfl⟩ := Event.exists_of_isReceive
        (hreception.isReceive event (Trace.mem_calls.mpr ⟨hmem, hlogged⟩))
      rfl

theorem not_isFull_of_ofCapacity [Memory] {capacity : Int} {response : Response}
    (hbuffer : Response.ofCapacity capacity = .ok response) :
    response.isFull = false := by
  obtain ⟨hpositive, rfl⟩ := Response.eq_of_ofCapacity hbuffer
  rw [Response.isFull_eq_false_iff]
  simp only [Response.free, Response.received, List.length_nil]
  omega

/-- A reception settles an exchange in which nothing went wrong before. -/
theorem Reception.settled [Memory] {step : Step Stop Response}
    (hreception : Reception settings peer step)
    (hsystem : step.events.OnlySystemFaults) :
    Settled settings step := by
  have hquiet := hreception.timeoutFaults_eq_nil
  cases hreception with
  | noBuffer hbuffer => exact .noBuffer rfl hbuffer (by simp [Trace.WentWell])
  | escaped hbuffer hloop =>
      obtain ⟨fault, room, -, hforeign, hlast⟩ :=
        hloop.lastCall?_of_error rfl
      have hown := hsystem.of_lastCall? hlast rfl
      rw [hforeign] at hown
      contradiction
  | full hbuffer hloop hfull =>
      obtain ⟨room, answer, hlast⟩ :=
        hloop.lastCall?_of_free (not_isFull_of_ofCapacity hbuffer)
      exact .failed rfl hlast (by simp [Failure.concern, Event.concerns])
        hquiet (.inr ⟨_, hbuffer⟩)
  | @faulty empty response fault events after hbuffer hloop hfull =>
      obtain ⟨hown, room, hlast⟩ := hloop.lastCall?_of_fault rfl
      refine .failed (congrArg Except.error (receiveStop_of_system hown))
        hlast ?_ hquiet (.inr ⟨_, hbuffer⟩)
      split <;> simp [Failure.concern, Event.concerns]
  | complete hbuffer hloop hfull =>
      refine .answered rfl hbuffer ?_
      apply (hloop.unbroken_of_none rfl).wentWell.append
      simp [Trace.WentWell, receivedNote, Event.isBroken, Event.fault?]

theorem Settled.prepend [Memory] {front : Trace} {step : Step Stop Response}
    (hfront : front.Unbroken) (hsettled : Settled settings step) :
    Settled settings ⟨step.outcome, front ++ step.events, step.peer⟩ := by
  have hquiet := hfront.wentWell.timeoutFaults_eq_nil
  cases hsettled with
  | answered houtcome hbuffer hwell =>
      exact .answered houtcome hbuffer (hfront.wentWell.append hwell)
  | failed houtcome hlast hconcern hrest hcause =>
      refine .failed houtcome (Trace.lastCall?_append hlast) hconcern ?_ hcause
      rw [Trace.timeoutFaults_append, hquiet, hrest]
      rfl
  | escaped houtcome hfaults =>
      refine .escaped houtcome ?_
      rw [Trace.timeoutFaults_append, hquiet, hfaults]
      rfl
  | noBuffer houtcome hbuffer hwell =>
      exact .noBuffer houtcome hbuffer (hfront.wentWell.append hwell)

theorem Settled.close [Memory] {step : Step Stop Response}
    (hsettled : Settled settings step) (closed : Except Fault Unit) :
    Settled settings
      ⟨step.outcome, step.events ++ [.closed closed], step.peer⟩ := by
  have hquiet : Trace.timeoutFaults [.closed closed] = [] := rfl
  cases hsettled with
  | answered houtcome hbuffer hwell =>
      exact .answered houtcome hbuffer
        (hwell.append (Trace.wentWell_closed closed))
  | failed houtcome hlast hconcern hrest hcause =>
      refine .failed houtcome ?_ hconcern ?_ hcause
      · rw [Trace.lastCall?_closed, hlast]
      · rw [Trace.timeoutFaults_append, hrest, hquiet]
        rfl
  | escaped houtcome hfaults =>
      refine .escaped houtcome ?_
      rw [Trace.timeoutFaults_append, hfaults, hquiet]
      rfl
  | noBuffer houtcome hbuffer hwell =>
      exact .noBuffer houtcome hbuffer
        (hwell.append (Trace.wentWell_closed closed))

theorem unbroken_resolution (host address : String) :
    Trace.Unbroken
      [.resolved host (.ok address), resolvedNote host address] := by
  simp [Trace.Unbroken, resolvedNote, Event.isBroken, Event.fault?]

theorem Connecting.unbroken_of_ok {address : String} {port : Int}
    {connecting : Trace} {after : Peer}
    (hconnecting : Connecting settings address port peer
      ⟨.ok (), connecting, after⟩) :
    connecting.Unbroken := by
  cases hconnecting with
  | connected =>
      simp [Trace.Unbroken, connectedNote, Event.isBroken, Event.fault?]

theorem Connecting.settled [Memory] {address : String} {port : Int} {stop : Stop}
    {connecting : Trace} {after : Peer}
    (hconnecting : Connecting settings address port peer
      ⟨.error stop, connecting, after⟩)
    (hport : Number.IsWritable port)
    (hsystem : connecting.OnlySystemFaults) :
    Settled settings ⟨.error stop, connecting, after⟩ := by
  cases hconnecting with
  | noConnectTimeout hfirst => exact .escaped rfl rfl
  | @refused fault after hfirst hconnect =>
      have hlast : Trace.lastCall?
          [.timeoutSet settings.connectTimeout (.ok ()),
            .connected address port (.error fault)] =
          some (.connected address port (.error fault)) := rfl
      obtain ⟨failure, hstop, hconcern⟩ :=
        connectStop_of_system address hport (hsystem.of_lastCall? hlast rfl)
      refine .failed (congrArg Except.error hstop) hlast ?_ rfl (.inl rfl)
      simp [hconcern, Event.concerns]
  | noReadTimeout hfirst hconnect hsecond => exact .escaped rfl rfl
  | unwritten hfirst hconnect hsecond hlong => exact absurd hport hlong

theorem Sending.settled [Memory] {total : Nat} {rest : Octets} {stop : Stop}
    {sending : Trace} {after : Peer}
    (hsending : Sending total rest peer ⟨.error stop, sending, after⟩)
    (hsystem : sending.OnlySystemFaults) :
    Settled settings ⟨.error stop, sending, after⟩ := by
  have hquiet := hsending.timeoutFaults_eq_nil
  obtain ⟨offered, sent, ⟨fault, hlast, hstop⟩ | ⟨hlast, hstop⟩⟩ :=
    hsending.lastCall?_of_error rfl
  · obtain ⟨failure, hfailure, hconcern⟩ :=
      sendStop_of_system sent total (hsystem.of_lastCall? hlast rfl)
    refine .failed (congrArg Except.error (hstop.trans hfailure)) hlast ?_
      hquiet (.inl rfl)
    simp [hconcern, Event.concerns]
  · refine .failed (congrArg Except.error hstop) hlast ?_ hquiet (.inl rfl)
    simp [Failure.concern, Event.concerns]

theorem Conversation.settled [Memory] {step : Step Stop Response}
    (hconversation : Conversation settings request octets peer step)
    (hport : Number.IsWritable request.port)
    (hsystem : step.events.OnlySystemFaults) :
    Settled settings step := by
  cases hconversation with
  | @unresolved fault hresolution =>
      have hown : fault.isSystem = true := hsystem _ (List.mem_singleton.mpr rfl)
        fault rfl
      refine .failed (congrArg Except.error (resolveStop_of_system hown)) rfl
        ?_ rfl (.inl rfl)
      simp [Failure.concern, Event.concerns]
  | unconnected hresolution hconnecting =>
      have hrest := hconnecting.settled hport
        (hsystem.of_subset (List.subset_append_right _ _))
      exact hrest.prepend (unbroken_resolution _ _)
  | unsent hresolution hconnecting hsending =>
      have hrest : Settled settings ⟨_, _, _⟩ := hsending.settled
        (hsystem.of_subset
          (List.subset_append_of_subset_right _
            (List.subset_append_right _ _)))
      exact (hrest.prepend hconnecting.unbroken_of_ok).prepend
        (unbroken_resolution _ _)
  | answered hresolution hconnecting hsending hreception =>
      have hrest := hreception.settled
        (hsystem.of_subset
          (List.subset_append_of_subset_right _
            (List.subset_append_of_subset_right _
              (List.subset_append_right _ _))))
      have hsent : Trace.Unbroken (_ ++ [sentNote octets.length]) :=
        (hsending.unbroken_of_ok rfl).append
          (by simp [Trace.Unbroken, sentNote, Event.isBroken, Event.fault?])
      exact ((hrest.prepend hsent).prepend
        hconnecting.unbroken_of_ok).prepend (unbroken_resolution _ _)

/-! ## The whole exchange -/

/-- A response after calls that all went well, or a failure about the last call. -/
def IsWrapped (step : Step Stop Response) : Prop :=
  (∃ response, step.outcome = .ok response ∧ step.events.WentWell) ∨
  ∃ failure event, step.outcome = .error (.failure failure) ∧
    step.events.lastCall? = some event ∧ failure.concern ∈ event.concerns

theorem Settled.isWrapped_iff [Memory] {step : Step Stop Response}
    (hsettled : Settled settings step) :
    IsWrapped step ↔
      step.events.timeoutFaults = [] ∧
      ((∃ empty, Response.ofCapacity settings.responseLimit = .ok empty) ∨
        ¬ step.events.WentWell) := by
  cases hsettled with
  | answered houtcome hbuffer hwell =>
      constructor
      · intro _
        exact ⟨hwell.timeoutFaults_eq_nil, .inl ⟨_, hbuffer⟩⟩
      · intro _
        exact .inl ⟨_, houtcome, hwell⟩
  | @failed failure event houtcome hlast hconcern hquiet hcause =>
      constructor
      · intro _
        refine ⟨hquiet, hcause.symm.imp_right ?_⟩
        intro hbroken hwell
        obtain ⟨hmem, hclose⟩ := Trace.mem_of_lastCall? hlast
        rw [hwell event hmem hclose] at hbroken
        contradiction
      · intro _
        exact .inr ⟨failure, event, houtcome, hlast, hconcern⟩
  | escaped houtcome hfaults =>
      simp [IsWrapped, houtcome, hfaults]
  | noBuffer houtcome hbuffer hwell =>
      simp [IsWrapped, houtcome, hbuffer, hwell]

theorem Settled.fault_iff [Memory] {step : Step Stop Response}
    (hsettled : Settled settings step) (fault : Fault) :
    step.outcome = .error (.fault fault) ↔
      step.events.timeoutFaults = [fault] := by
  cases hsettled with
  | answered houtcome hbuffer hwell =>
      simp [houtcome, hwell.timeoutFaults_eq_nil]
  | failed houtcome hlast hconcern hquiet hcause => simp [houtcome, hquiet]
  | escaped houtcome hfaults => simp [houtcome, hfaults]
  | noBuffer houtcome hbuffer hwell =>
      simp [houtcome, hwell.timeoutFaults_eq_nil]

theorem run_settled [Memory] (settings : Settings) (request : Request)
    (octets : Octets) (peer : Peer) (hport : Number.IsWritable request.port)
    (hsystem :
      (run settings request octets peer).events.OnlySystemFaults) :
    Settled settings (run settings request octets peer) := by
  cases hopening : peer.opening with
  | error fault =>
      have hrun := run_eq_of_opening_error settings request octets hopening
      rw [hrun] at hsystem ⊢
      have hown : fault.isSystem = true :=
        hsystem _ (List.mem_singleton.mpr rfl) fault rfl
      refine .failed (congrArg Except.error (openStop_of_system hown)) rfl
        ?_ rfl (.inl rfl)
      simp [Failure.concern, Event.concerns]
  | ok _ =>
      obtain ⟨step, hconversation, hrun⟩ :=
        run_eq_of_opening_ok settings request octets hopening
      rw [hrun] at hsystem ⊢
      have hclosed (fault : Fault) (hclosing : peer.closing = .error fault) :
          fault.isSystem = true :=
        hsystem (.closed peer.closing) (by simp) fault
          (by simp [hclosing, Event.fault?])
      have hinner : step.events.OnlySystemFaults :=
        hsystem.of_subset
          (List.subset_cons_of_subset _ (List.subset_append_left _ _))
      have hopened : Trace.Unbroken [.opened (.ok ())] := by
        simp [Trace.Unbroken, Event.isBroken, Event.fault?]
      rw [afterClosing_of_system step.outcome hclosed]
      exact ((hconversation.settled hport hinner).close peer.closing).prepend hopened

/-- If all faults are the system's, an exchange comes to a response or to a failure of the stage that met
the fault, except that a fault of setting a timeout leaves it as it is, and that a buffer may be refused
after everything else went well.  This is about ports that can be written: an exchange tells of any other port
by a fault of its own. -/
theorem run_isWrapped_iff [Memory] (settings : Settings) (request : Request)
    (octets : Octets) (peer : Peer) (hport : Number.IsWritable request.port)
    (hsystem :
      (run settings request octets peer).events.OnlySystemFaults) :
    let step := run settings request octets peer
    (IsWrapped step ↔
      step.events.timeoutFaults = [] ∧
      ((∃ empty, Response.ofCapacity settings.responseLimit = .ok empty) ∨
        ¬ step.events.WentWell)) ∧
    (∀ fault, step.outcome = .error (.fault fault) ↔
      step.events.timeoutFaults = [fault]) := by
  have hsettled := run_settled settings request octets peer hport hsystem
  exact ⟨hsettled.isWrapped_iff, hsettled.fault_iff⟩

theorem run_isWrapped_of_refused :
    let request : Request :=
      { method := "POST", host := "h", port := 80, path := "/" }
    let peer : Peer :=
      { connecting := .error ⟨.system .refused, "refused"⟩ }
    Number.IsWritable request.port ∧
      (run Settings.defaults request [] peer).events.OnlySystemFaults ∧
      IsWrapped (run Settings.defaults request [] peer) := by
  intro request peer
  have hport : Number.IsWritable request.port := by decide
  have hsystem :
      (run Settings.defaults request [] peer).events.OnlySystemFaults := by
    have hevents : (run Settings.defaults request [] peer).events =
        [.opened (.ok ()), .resolved "h" (.ok "192.0.2.1"),
          resolvedNote "h" "192.0.2.1",
          .timeoutSet Settings.defaults.connectTimeout (.ok ()),
          .connected "192.0.2.1" 80 (.error ⟨.system .refused, "refused"⟩),
          .closed (.ok ())] := rfl
    rw [hevents]
    intro event hmem fault hfault
    simp only [List.mem_cons, List.not_mem_nil, or_false] at hmem
    rcases hmem with rfl | rfl | rfl | rfl | rfl | rfl <;>
      simp [resolvedNote, Event.fault?] at hfault
    rw [← hfault]
    rfl
  have hiff :=
    (run_isWrapped_iff Settings.defaults request [] peer hport hsystem).1
  exact ⟨hport, hsystem, hiff.mpr ⟨rfl, .inl ⟨⟨2048, []⟩, by decide⟩⟩⟩

/-- A fault of setting the connect timeout leaves as it is. -/
theorem not_run_isWrapped_of_timeout_fault :
    ¬ ∀ (request : Request) (octets : Octets) (peer : Peer),
      (run Settings.defaults request octets peer).events.OnlySystemFaults →
      IsWrapped (run Settings.defaults request octets peer) := by
  intro hall
  let fault : Fault := ⟨.system .general, "boom"⟩
  let request : Request :=
    { method := "POST", host := "h", port := 80, path := "/" }
  let peer : Peer := { timeouts := [.error fault] }
  have hrun : run Settings.defaults request [] peer =
      ⟨.error (.fault fault),
        [.opened (.ok ()), .resolved "h" (.ok "192.0.2.1"),
          resolvedNote "h" "192.0.2.1",
          .timeoutSet Settings.defaults.connectTimeout (.error fault),
          .closed (.ok ())], {}⟩ := rfl
  have hwrapped := hall request [] peer
  rw [hrun] at hwrapped
  have hnot : ¬ IsWrapped
      ⟨.error (.fault fault),
        [.opened (.ok ()), .resolved "h" (.ok "192.0.2.1"),
          resolvedNote "h" "192.0.2.1",
          .timeoutSet Settings.defaults.connectTimeout (.error fault),
          .closed (.ok ())], {}⟩ := by
    simp [IsWrapped]
  apply hnot
  apply hwrapped
  intro event hmem other hother
  simp only [List.mem_cons, List.not_mem_nil, or_false] at hmem
  rcases hmem with rfl | rfl | rfl | rfl | rfl <;>
    simp [resolvedNote, Event.fault?] at hother
  rw [← hother]
  rfl

end Exchange

end RawPost
