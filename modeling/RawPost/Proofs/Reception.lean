import RawPost.Proofs.Conversation
import RawPost.Proofs.Stream

/-!
# Reception of a stream

What receiving comes to depends on the stream and on how it ends, not on its chunks and not on the chunk
size.  The invariant of the loop: what the buffer holds, followed by the stream of the peer, is the stream
the peer had at first, and the free space shrinks as the buffer grows.  So the loop fills the buffer as soon
as the stream is long enough, and meets the end of the stream otherwise.
-/

namespace RawPost

def Event.isWarning : Event → Bool
  | .logged .warning _ => true
  | _ => false

@[simp] theorem Response.append_append (response : Response)
    (first second : Octets) :
    (response.append first).append second =
      response.append (first ++ second) := by
  simp [append]

namespace Exchange

namespace Receiving

variable {chunkSize : Int} {response : Response} {peer : Peer}
  {step : Step Stop (Response × Option Fault)}

/-- With enough of a stream the buffer fills up, and what does not fit is not taken. -/
theorem of_long_stream (hrun : Receiving chunkSize response peer step)
    (hchunk : 1 ≤ chunkSize)
    (hlong : response.free ≤ peer.stream.length) :
    step.outcome =
        .ok (response.append (peer.stream.take response.free), none) ∧
      step.events.delivered = peer.stream.take response.free ∧
      step.peer.stream = peer.stream.drop response.free ∧
      step.peer.afterStream = peer.afterStream := by
  induction hrun with
  | @full response peer hfull =>
      have hfree : response.free = 0 := by simpa [Response.isFull] using hfull
      simp [hfree, Response.append]
  | @ended response peer after hfull hreceive =>
      have hpositive := Response.isFull_eq_false_iff.mp hfull
      have hnil := Peer.of_receive_nil
        (Response.room_pos hchunk hfull) hreceive
      rw [hnil.1, List.length_nil] at hlong
      omega
  | @noted response peer after fault hfull hreceive hsystem =>
      have hpositive := Response.isFull_eq_false_iff.mp hfull
      rw [(Peer.of_receive_error hreceive).1, List.length_nil] at hlong
      omega
  | @escaped response peer after fault hfull hreceive hsystem =>
      have hpositive := Response.isFull_eq_false_iff.mp hfull
      rw [(Peer.of_receive_error hreceive).1, List.length_nil] at hlong
      omega
  | @delivered response peer after octets step hfull hreceive hoctets hnext ih =>
      obtain ⟨hlength, hstream, hafter⟩ := Peer.of_receive_ok hoctets hreceive
      -- What came in fits, so the stream behind it still fills what is left of the buffer.
      have hroom : octets.length ≤ response.free := by
        rw [Response.room_eq hchunk] at hlength
        omega
      rw [hstream, List.length_append] at hlong
      have hrest : (response.append octets).free ≤ after.stream.length := by
        rw [Response.free_append]
        omega
      obtain ⟨houtcome, hdelivered, hleft, hkept⟩ := ih hrest
      rw [Response.free_append] at houtcome hdelivered hleft
      refine ⟨?_, ?_, ?_, hkept.trans hafter⟩
      · rw [houtcome, Response.append_append, hstream,
          List.take_append, List.take_of_length_le hroom]
      · rw [Trace.delivered_cons, hdelivered, hstream, Event.delivered,
          List.take_append, List.take_of_length_le hroom]
      · rw [hleft, hstream, List.drop_append,
          List.drop_eq_nil_of_le hroom, List.nil_append]

/-- A shorter stream is taken in whole, and then its end is met. -/
theorem of_short_stream (hrun : Receiving chunkSize response peer step)
    (hchunk : 1 ≤ chunkSize)
    (hshort : peer.stream.length < response.free) :
    (peer.ending = none →
      step.outcome = .ok (response.append peer.stream, none)) ∧
    (∀ fault, peer.ending = some fault → fault.isSystem = true →
      step.outcome = .ok (response.append peer.stream, some fault) ∧
      step.events.filter Event.isWarning =
        [readWarning (response.received + peer.stream.length) fault]) ∧
    (∀ fault, peer.ending = some fault → fault.isSystem = false →
      step.outcome = .error (.fault fault)) := by
  induction hrun with
  | @full response peer hfull =>
      have hfree : response.free = 0 := by simpa [Response.isFull] using hfull
      omega
  | @ended response peer after hfull hreceive =>
      obtain ⟨hnil, hending⟩ := Peer.of_receive_nil
        (Response.room_pos hchunk hfull) hreceive
      simp [hnil, hending, Response.append]
  | @noted response peer after fault hfull hreceive hsystem =>
      obtain ⟨hnil, hending⟩ := Peer.of_receive_error hreceive
      refine ⟨by simp [hending], ?_, ?_⟩
      · intro other hother _
        rw [hending, Option.some.injEq] at hother
        simp [hnil, hother, Response.append, readWarning, Event.isWarning]
      · intro other hother hforeign
        rw [hending, Option.some.injEq] at hother
        rw [← hother, hsystem] at hforeign
        contradiction
  | @escaped response peer after fault hfull hreceive hsystem =>
      obtain ⟨hnil, hending⟩ := Peer.of_receive_error hreceive
      refine ⟨by simp [hending], ?_, ?_⟩
      · intro other hother hown
        rw [hending, Option.some.injEq] at hother
        rw [← hother, hsystem] at hown
        contradiction
      · intro other hother _
        rw [hending, Option.some.injEq] at hother
        rw [hother]
  | @delivered response peer after octets step hfull hreceive hoctets hnext ih =>
      obtain ⟨hlength, hstream, hafter⟩ := Peer.of_receive_ok hoctets hreceive
      rw [hstream, List.length_append] at hshort
      have hrest : after.stream.length < (response.append octets).free := by
        rw [Response.free_append]
        omega
      obtain ⟨hend, hsystem, hother⟩ := ih hrest
      rw [Peer.ending_eq_of_afterStream hafter] at hend hsystem hother
      have hreceived : (response.append octets).received =
          response.received + octets.length := by
        simp [Response.received, Response.append]
      rw [hstream, List.length_append]
      refine ⟨?_, ?_, hother⟩
      · intro hending
        rw [hend hending, Response.append_append]
      · intro fault hending hown
        obtain ⟨houtcome, hwarning⟩ := hsystem fault hending hown
        rw [hreceived, Nat.add_assoc] at hwarning
        refine ⟨by rw [houtcome, Response.append_append], ?_⟩
        exact hwarning

theorem calls_length_le (hrun : Receiving chunkSize response peer step)
    (hchunk : 1 ≤ chunkSize) :
    step.events.calls.length ≤ response.free := by
  induction hrun with
  | full => simp
  | ended hfull => exact Response.isFull_eq_false_iff.mp hfull
  | noted hfull => exact Response.isFull_eq_false_iff.mp hfull
  | escaped hfull => exact Response.isFull_eq_false_iff.mp hfull
  | @delivered response peer after octets step hfull hreceive hoctets hnext ih =>
      have hlength := (Peer.of_receive_ok hoctets hreceive).1
      have hpositive : 0 < octets.length := List.length_pos_iff.mpr hoctets
      rw [Response.room_eq hchunk] at hlength
      rw [Response.free_append] at ih
      rw [Trace.calls_cons rfl, List.length_cons]
      omega

/-- A call that asks for as much as the chunk size and the free space allow, and for something. -/
def Offers (chunkSize free : Nat) (event : Event) : Prop :=
  ∃ answer, event = .received (min chunkSize free) answer ∧
    1 ≤ min chunkSize free

theorem offers_room (hchunk : 1 ≤ chunkSize)
    (hfull : response.isFull = false) (answer : Except Fault Octets) :
    Offers chunkSize.toNat response.free
      (.received (response.room chunkSize) answer) := by
  have hpositive := Response.isFull_eq_false_iff.mp hfull
  refine ⟨answer, ?_, by omega⟩
  rw [Response.room_eq hchunk, Nat.min_comm]

theorem offers_of_singleton {size free : Nat} {first event : Event}
    {before after : Trace} (hoffers : Offers size free first)
    (hcalls : [first] = before ++ event :: after) :
    Offers size (free - before.delivered.length) event := by
  cases before with
  | nil =>
      simp only [List.nil_append, List.cons.injEq] at hcalls
      rw [← hcalls.1]
      exact hoffers
  | cons other before => simp at hcalls

theorem offered (hrun : Receiving chunkSize response peer step)
    (hchunk : 1 ≤ chunkSize) {before after : Trace} {event : Event}
    (hcalls : step.events.calls = before ++ event :: after) :
    Offers chunkSize.toNat (response.free - before.delivered.length)
      event := by
  induction hrun generalizing before with
  | full => simp at hcalls
  | ended hfull =>
      exact offers_of_singleton (offers_room hchunk hfull _) hcalls
  | noted hfull =>
      exact offers_of_singleton (offers_room hchunk hfull _) hcalls
  | escaped hfull =>
      exact offers_of_singleton (offers_room hchunk hfull _) hcalls
  | @delivered response peer later octets step hfull hreceive hoctets hnext ih =>
      rw [Trace.calls_cons rfl] at hcalls
      cases before with
      | nil =>
          simp only [List.nil_append, List.cons.injEq] at hcalls
          rw [← hcalls.1]
          exact offers_room hchunk hfull _
      | cons other before =>
          simp only [List.cons_append, List.cons.injEq] at hcalls
          have hrest := ih hcalls.2
          rw [Response.free_append] at hrest
          rw [← hcalls.1, Trace.delivered_cons, Event.delivered,
            List.length_append, ← Nat.sub_sub]
          exact hrest

end Receiving

/-- What receiving makes of the end of its loop. -/
def conclude : Except Stop (Response × Option Fault) → Except Stop Response
  | .error stop => .error stop
  | .ok (response, fault) =>
    if response.isFull then .error (.failure (.tooLarge response.capacity))
    else
      match fault with
      | some fault => .error (receiveStop fault)
      | none => .ok response

/-- The loop inside of a reception, which differs from it by a note at most. -/
theorem Reception.exists_loop [Memory] {settings : Settings} {peer : Peer}
    {step : Step Stop Response} {empty : Response}
    (hreception : Reception settings peer step)
    (hbuffer : Response.ofCapacity settings.responseLimit = .ok empty) :
    ∃ loop, Receiving settings.chunkSize empty peer loop ∧
      step.outcome = conclude loop.outcome ∧ step.peer = loop.peer ∧
      step.events.calls = loop.events.calls ∧
      step.events.filter Event.isWarning =
        loop.events.filter Event.isWarning := by
  cases hreception with
  | noBuffer hrefused =>
      rw [hbuffer] at hrefused
      contradiction
  | escaped hsame hloop =>
      rw [hbuffer, Except.ok.injEq] at hsame
      subst hsame
      exact ⟨_, hloop, rfl, rfl, rfl, rfl⟩
  | full hsame hloop hfull =>
      rw [hbuffer, Except.ok.injEq] at hsame
      subst hsame
      exact ⟨_, hloop, by simp [conclude, hfull], rfl, rfl, rfl⟩
  | faulty hsame hloop hfull =>
      rw [hbuffer, Except.ok.injEq] at hsame
      subst hsame
      exact ⟨_, hloop, by simp [conclude, hfull], rfl, rfl, rfl⟩
  | complete hsame hloop hfull =>
      rw [hbuffer, Except.ok.injEq] at hsame
      subst hsame
      refine ⟨_, hloop, by simp [conclude, hfull], rfl, ?_, ?_⟩
      · simp [receivedNote]
      · simp [receivedNote, Event.isWarning]

theorem receiveStop_of_system {fault : Fault} (hsystem : fault.isSystem = true) :
    receiveStop fault =
      .failure (if fault.isTimeout then .receiveTimedOut
        else .notReceived fault) := by
  by_cases htimeout : fault.isTimeout = true
  · simp [receiveStop, htimeout]
  · simp [receiveStop, Stop.ofSystem, htimeout, hsystem]

/-- A stream and its end, read into a buffer of some capacity. -/
structure ReadsStream (capacity chunkSize : Nat) (peer : Peer)
    (step : Step Stop Response) : Prop where
  long : capacity ≤ peer.stream.length →
    step.outcome = .error (.failure (.tooLarge capacity)) ∧
      step.events.delivered = peer.stream.take capacity ∧
      step.peer.stream = peer.stream.drop capacity ∧
      step.peer.afterStream = peer.afterStream
  ended : peer.stream.length < capacity → peer.ending = none →
    ∃ response, step.outcome = .ok response ∧
      response.capacity = capacity ∧
      response.octets = peer.stream ∧
      response.received = peer.stream.length ∧
      response.isFull = false
  systemFault : ∀ fault, peer.stream.length < capacity →
    peer.ending = some fault → fault.isSystem = true →
    step.outcome =
        .error (.failure (if fault.isTimeout then .receiveTimedOut
          else .notReceived fault)) ∧
      step.events.filter Event.isWarning =
        [readWarning peer.stream.length fault]
  otherFault : ∀ fault, peer.stream.length < capacity →
    peer.ending = some fault → fault.isSystem = false →
    step.outcome = .error (.fault fault)
  calls_length_le : step.events.calls.length ≤ capacity
  offered : ∀ (before : Trace) event after,
    step.events.calls = before ++ event :: after →
    ∃ answer,
      event = .received
        (min chunkSize (capacity - before.delivered.length)) answer ∧
      1 ≤ min chunkSize (capacity - before.delivered.length)

theorem Reception.readsStream [Memory] {settings : Settings} {peer : Peer}
    {step : Step Stop Response} {capacity : Nat}
    (hreception : Reception settings peer step)
    (hbuffer : Response.ofCapacity settings.responseLimit =
      .ok ⟨capacity, []⟩)
    (hchunk : 1 ≤ settings.chunkSize) :
    ReadsStream capacity settings.chunkSize.toNat peer step := by
  obtain ⟨loop, hloop, houtcome, hpeer, hcalls, hwarnings⟩ :=
    hreception.exists_loop hbuffer
  have hfree : (⟨capacity, []⟩ : Response).free = capacity := rfl
  have happend (octets : Octets) :
      (⟨capacity, []⟩ : Response).append octets = ⟨capacity, octets⟩ := rfl
  have hfits (octets : Octets) (hshort : octets.length < capacity) :
      (⟨capacity, octets⟩ : Response).isFull = false := by
    rw [Response.isFull_eq_false_iff]
    simp only [Response.free, Response.received]
    omega
  have hdelivered : step.events.delivered = loop.events.delivered := by
    rw [← Trace.delivered_calls, hcalls, Trace.delivered_calls]
  constructor
  · intro hlong
    obtain ⟨hresult, htaken, hleft, hkept⟩ := hloop.of_long_stream hchunk hlong
    rw [hfree] at hresult htaken hleft
    have hfull :
        (⟨capacity, peer.stream.take capacity⟩ : Response).isFull = true := by
      simp [Response.isFull, Response.free, Response.received, hlong]
    refine ⟨?_, hdelivered.trans htaken, ?_, ?_⟩
    · rw [houtcome, hresult, happend]
      simp [conclude, hfull]
    · rw [hpeer, hleft]
    · rw [hpeer, hkept]
  · intro hshort hending
    have hresult := (hloop.of_short_stream hchunk hshort).1 hending
    refine ⟨⟨capacity, peer.stream⟩, ?_, rfl, rfl, rfl, hfits _ hshort⟩
    rw [houtcome, hresult, happend]
    simp [conclude, hfits _ hshort]
  · intro fault hshort hending hsystem
    obtain ⟨hresult, hwarning⟩ :=
      (hloop.of_short_stream hchunk hshort).2.1 fault hending hsystem
    constructor
    · rw [houtcome, hresult, happend, ← receiveStop_of_system hsystem]
      simp [conclude, hfits _ hshort]
    · rw [hwarnings, hwarning]
      simp [Response.received]
  · intro fault hshort hending hsystem
    have hresult :=
      (hloop.of_short_stream hchunk hshort).2.2 fault hending hsystem
    rw [houtcome, hresult]
    rfl
  · rw [hcalls]
    exact hloop.calls_length_le hchunk
  · intro before event after hsplit
    rw [hcalls] at hsplit
    exact hloop.offered hchunk hsplit

theorem ReadsStream.outcome_unique {capacity firstSize secondSize : Nat}
    {first second : Peer} {firstStep secondStep : Step Stop Response}
    (hfirst : ReadsStream capacity firstSize first firstStep)
    (hsecond : ReadsStream capacity secondSize second secondStep)
    (hstream : first.stream = second.stream)
    (hending : first.ending = second.ending) :
    firstStep.outcome = secondStep.outcome := by
  by_cases hlong : capacity ≤ second.stream.length
  · rw [(hfirst.long (by rwa [hstream])).1, (hsecond.long hlong).1]
  · have hshort : second.stream.length < capacity := by omega
    have hshortFirst : first.stream.length < capacity := by rwa [hstream]
    cases hend : second.ending with
    | none =>
        rw [hend] at hending
        obtain ⟨⟨_, _⟩, hfirstOutcome, rfl, rfl, -⟩ :=
          hfirst.ended hshortFirst hending
        obtain ⟨⟨_, _⟩, hsecondOutcome, rfl, rfl, -⟩ :=
          hsecond.ended hshort hend
        rw [hfirstOutcome, hsecondOutcome, hstream]
    | some fault =>
        rw [hend] at hending
        by_cases hsystem : fault.isSystem = true
        · rw [(hfirst.systemFault fault hshortFirst hending hsystem).1,
            (hsecond.systemFault fault hshort hend hsystem).1]
        · have hother : fault.isSystem = false := by simpa using hsystem
          rw [hfirst.otherFault fault hshortFirst hending hother,
            hsecond.otherFault fault hshort hend hother]

theorem receive_eq_of_refusal [Memory] {settings : Settings}
    {refusal : Response.Refusal}
    (hbuffer : Response.ofCapacity settings.responseLimit = .error refusal)
    (peer : Peer) :
    receive settings peer = ⟨.error (.noBuffer refusal), [], peer⟩ := by
  unfold receive
  rw [hbuffer]
  rfl

/-- A buffer that memory can hold reads the stream of the peer up to its end; one that it cannot hold is
refused before anything is asked for.  Neither the chunks of the peer nor the chunk size matter for the
outcome. -/
theorem receive_readsStream [Memory] (settings : Settings) (peer : Peer)
    (hlimit : 1 ≤ settings.responseLimit)
    (hchunk : 1 ≤ settings.chunkSize) :
    let step := receive settings peer
    (settings.responseLimit < Memory.limit →
      ReadsStream settings.responseLimit.toNat settings.chunkSize.toNat
        peer step) ∧
    ((Memory.limit : Int) ≤ settings.responseLimit →
      ∃ refusal,
        Response.ofCapacity settings.responseLimit = .error refusal ∧
        step = ⟨.error (.noBuffer refusal), [], peer⟩) ∧
    (∀ (other : Settings) (otherPeer : Peer),
      other.responseLimit = settings.responseLimit →
      1 ≤ other.chunkSize → otherPeer.stream = peer.stream →
      otherPeer.ending = peer.ending →
      (receive other otherPeer).outcome = step.outcome) := by
  have hreads (given : Settings) (sender : Peer)
      (hpositive : 1 ≤ given.responseLimit) (hsize : 1 ≤ given.chunkSize)
      (hfits : given.responseLimit < Memory.limit) :
      ReadsStream given.responseLimit.toNat given.chunkSize.toNat sender
        (receive given sender) :=
    (receive_reception given sender).readsStream
      (Response.ofCapacity_eq_ok hpositive hfits) hsize
  refine ⟨hreads settings peer hlimit hchunk, ?_, ?_⟩
  · intro hmemory
    obtain ⟨refusal, hrefusal⟩ := Response.exists_refusal hmemory
    exact ⟨refusal, hrefusal, receive_eq_of_refusal hrefusal peer⟩
  · intro other otherPeer hsame hsize hstream hending
    by_cases hfits : settings.responseLimit < Memory.limit
    · have hother := hreads other otherPeer (by omega) hsize (by omega)
      rw [hsame] at hother
      exact hother.outcome_unique
        (hreads settings peer hlimit hchunk hfits) hstream hending
    · obtain ⟨refusal, hrefusal⟩ :=
        Response.exists_refusal (Int.not_lt.mp hfits)
      rw [receive_eq_of_refusal hrefusal,
        receive_eq_of_refusal (by rw [hsame]; exact hrefusal)]

/-- Three octets of room, read two at a time, are full after the first three of four. -/
theorem receive_readsStream_narrow :
    let step := receive
      { Settings.defaults with responseLimit := 3, chunkSize := 2 }
      { incoming := [.ok [1, 2, 3, 4], .error ⟨.other, "reset"⟩] }
    step.outcome = .error (.failure (.tooLarge 3)) ∧
      step.events.delivered = [1, 2, 3] ∧ step.peer.stream = [4] := by
  have hlong := ((receive_readsStream
    { Settings.defaults with responseLimit := 3, chunkSize := 2 }
    { incoming := [.ok [1, 2, 3, 4], .error ⟨.other, "reset"⟩] }
    (by decide) (by decide)).1 (by decide)).long (by decide)
  exact ⟨hlong.1, hlong.2.1, hlong.2.2.1⟩

/-- Settings may ask for a buffer that has no index, and then not even an empty response is read. -/
theorem not_receive_readsStream_of_unaddressable :
    ¬ ∀ (settings : Settings) (peer : Peer),
      1 ≤ settings.responseLimit → 1 ≤ settings.chunkSize →
      ReadsStream settings.responseLimit.toNat settings.chunkSize.toNat
        peer (receive settings peer) := by
  intro hall
  have hreads := hall
    { Settings.defaults with responseLimit := 0x8000000000000000 } {}
    (by decide) (by decide)
  obtain ⟨response, houtcome, -⟩ := hreads.ended (by decide) rfl
  have hrefusal : Response.ofCapacity 0x8000000000000000 =
      .error .notAddressable := by decide
  rw [receive_eq_of_refusal hrefusal] at houtcome
  simp at houtcome

end Exchange

end RawPost
