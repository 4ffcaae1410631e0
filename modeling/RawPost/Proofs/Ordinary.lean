import RawPost.Proofs.Wrapping

/-!
# Exchanges with an ordinary peer

An ordinary peer answers with the faults that each stage reckons with: those of the system, at the resolver
also a name that cannot be encoded, and at connecting also a port out of range; it never refuses a timeout.
With such a peer and a buffer that is there, an exchange gives a response if it succeeds, and a failure in
every other case.

It succeeds if all of the request is accepted and the stream ends by itself before the buffer is full.
-/

namespace RawPost

namespace Peer

structure IsOrdinary (peer : Peer) : Prop where
  opening : ∀ fault, peer.opening = .error fault → fault.isSystem = true
  resolution : ∀ fault, peer.resolution = .error fault →
    fault.isSystem = true ∨ fault.isEncoding = true
  connecting : ∀ fault, peer.connecting = .error fault →
    fault.isSystem = true ∨ fault.isRange = true
  closing : ∀ fault, peer.closing = .error fault → fault.isSystem = true
  timeouts : ∀ answer ∈ peer.timeouts, answer = .ok ()
  sends : ∀ fault, .error fault ∈ peer.sends → fault.isSystem = true
  incoming : ∀ fault, .error fault ∈ peer.incoming → fault.isSystem = true

/-- Answers to sends that accept so many octets: none of them is a fault or nothing before all are
accepted, and when the answers have run out, the rest is accepted at once. -/
def Accepts : List (Except Fault Nat) → Nat → Prop
  | _, 0 => True
  | [], _ + 1 => True
  | .error _ :: _, _ + 1 => False
  | .ok count :: rest, left + 1 =>
    0 < count ∧ Accepts rest (left + 1 - count)

theorem answersAfter_isSuffix (answers : List (Except Fault Octets)) :
    answersAfter answers <:+ answers := by
  induction answers with
  | nil => exact List.suffix_rfl
  | cons answer answers ih =>
      cases answer with
      | error fault => exact List.suffix_rfl
      | ok chunk =>
          cases chunk with
          | nil => exact List.suffix_rfl
          | cons octet octets => exact ih.trans (List.suffix_cons _ _)

theorem error_mem_of_ending {peer : Peer} {fault : Fault}
    (hending : peer.ending = some fault) : .error fault ∈ peer.incoming := by
  apply (answersAfter_isSuffix peer.incoming).subset
  change .error fault ∈ peer.afterStream
  unfold ending at hending
  split at hending
  next other rest hafter =>
    rw [Option.some.injEq] at hending
    rw [hafter, hending]
    exact List.mem_cons_self
  next => simp at hending

/-! ## What a call takes from the peer -/

variable {peer after : Peer} {offered : Octets}

theorem eq_of_setTimeout {answer : Except Fault Unit}
    (hset : peer.setTimeout = (answer, after)) :
    after = { peer with timeouts := peer.timeouts.tail } := by
  have hafter : after = peer.setTimeout.2 := by rw [hset]
  rw [hafter]
  cases peer with
  | mk opening resolution connecting closing timeouts sends incoming =>
      cases timeouts <;> rfl

theorem eq_of_send {answer : Except Fault Nat}
    (hsend : peer.send offered = (answer, after)) :
    after = { peer with sends := peer.sends.tail } := by
  have hafter : after = (peer.send offered).2 := by rw [hsend]
  rw [hafter]
  cases peer with
  | mk opening resolution connecting closing timeouts sends incoming =>
      cases sends <;> rfl

theorem setTimeout_ne_error (htimeouts : ∀ answer ∈ peer.timeouts, answer = .ok ())
    {fault : Fault} : peer.setTimeout ≠ (.error fault, after) := by
  unfold setTimeout
  split
  next => simp
  next answer rest hanswers =>
    have hanswer := htimeouts answer (by simp [hanswers])
    simp [hanswer]

theorem timeouts_of_setTimeout {answer : Except Fault Unit}
    (htimeouts : ∀ answer ∈ peer.timeouts, answer = .ok ())
    (hset : peer.setTimeout = (answer, after)) :
    ∀ answer ∈ after.timeouts, answer = .ok () := by
  intro other hmem
  rw [eq_of_setTimeout hset] at hmem
  exact htimeouts other (List.mem_of_mem_tail hmem)

theorem error_mem_of_send {fault : Fault}
    (hsend : peer.send offered = (.error fault, after)) :
    .error fault ∈ peer.sends := by
  unfold send at hsend
  split at hsend
  next => simp at hsend
  next answer rest hanswers =>
    cases answer with
    | ok count => simp [Except.map] at hsend
    | error other =>
        simp only [Except.map, Prod.mk.injEq, Except.error.injEq] at hsend
        simp [hanswers, hsend.1]

theorem not_accepts_of_error {fault : Fault} (hoffered : offered ≠ [])
    (hsend : peer.send offered = (.error fault, after)) :
    ¬ Accepts peer.sends offered.length := by
  obtain ⟨octet, rest, rfl⟩ := List.exists_cons_of_ne_nil hoffered
  unfold send at hsend
  split at hsend
  next => simp at hsend
  next answer answers hanswers =>
    cases answer with
    | ok count => simp [Except.map] at hsend
    | error other => simp [hanswers, Accepts]

/-- A call that takes some of the octets leaves those that are still to be accepted. -/
theorem accepts_iff_of_ok {count : Nat} (hoffered : offered ≠ [])
    (hsend : peer.send offered = (.ok count, after)) :
    Accepts peer.sends offered.length ↔
      0 < count ∧ Accepts after.sends (offered.drop count).length := by
  obtain ⟨octet, rest, rfl⟩ := List.exists_cons_of_ne_nil hoffered
  have hafter := eq_of_send hsend
  unfold send at hsend
  split at hsend
  next hanswers =>
    simp only [Prod.mk.injEq, Except.ok.injEq] at hsend
    rw [← hsend.1, hafter]
    simp [hanswers, Accepts]
  next answer answers hanswers =>
    cases answer with
    | error fault => simp [Except.map] at hsend
    | ok most =>
        simp only [Except.map, Prod.mk.injEq, Except.ok.injEq] at hsend
        have hcount : count = min most (rest.length + 1) := hsend.1.symm
        have hleft : rest.length + 1 - most =
            (octet :: rest).length - count := by
          rw [hcount, List.length_cons]
          omega
        rw [hafter, hanswers, List.length_drop, List.tail_cons,
          List.length_cons, Accepts, hleft, List.length_cons, hcount]
        simp

end Peer

namespace Exchange

/-- An outcome that is there if the action succeeds, and a failure if it does not. -/
inductive Ends {α : Type} (succeeds : Prop) : Except Stop α → Prop where
  | well (hsucceeds : succeeds) (a : α) : Ends succeeds (.ok a)
  | failed (hfails : ¬ succeeds) (failure : Failure) :
      Ends succeeds (.error (.failure failure))

theorem Ends.congr {α : Type} {one other : Prop} {outcome : Except Stop α}
    (hends : Ends one outcome) (hiff : one ↔ other) : Ends other outcome := by
  rw [← propext hiff]
  exact hends

theorem Ends.of_ok {α : Type} {succeeds : Prop} {a : α}
    (hends : Ends succeeds (.ok a)) : succeeds := by
  cases hends with
  | well hsucceeds => exact hsucceeds

/-- What it takes to get a response. -/
structure Succeeds (settings : Settings) (octets : Octets) (peer : Peer) :
    Prop where
  opened : peer.opening = .ok ()
  resolved : ∃ address, peer.resolution = .ok address
  connected : peer.connecting = .ok ()
  accepted : Peer.Accepts peer.sends octets.length
  ended : peer.ending = none
  short : peer.stream.length < settings.responseLimit

variable {settings : Settings} {request : Request} {octets : Octets}
  {peer : Peer}

/-! ## Stage by stage -/

theorem Connecting.ends {address : String} {port : Int} {step : Step Stop Unit}
    (hrun : Connecting settings address port peer step)
    (hport : Number.IsWritable port)
    (htimeouts : ∀ answer ∈ peer.timeouts, answer = .ok ())
    (hconnecting : ∀ fault, peer.connecting = .error fault →
      fault.isSystem = true ∨ fault.isRange = true) :
    Ends (peer.connecting = .ok ()) step.outcome := by
  cases hrun with
  | noConnectTimeout hfirst =>
      exact absurd hfirst (Peer.setTimeout_ne_error htimeouts)
  | @refused fault after hfirst hconnect =>
      have hnot : ¬ peer.connecting = .ok () := by simp [hconnect]
      have hstop : ∃ failure, connectStop address port fault = .failure failure := by
        rcases hconnecting fault hconnect with hsystem | hrange
        · obtain ⟨failure, hfailure, -⟩ :=
            connectStop_of_system address hport hsystem
          exact ⟨failure, hfailure⟩
        · simp only [connectStop, Stop.ofPort_of_isWritable hport]
          by_cases htimeout : fault.isTimeout = true
          · exact ⟨_, if_pos htimeout⟩
          · rw [if_neg htimeout, if_pos hrange]
            exact ⟨_, rfl⟩
      obtain ⟨failure, hfailure⟩ := hstop
      rw [hfailure]
      exact .failed hnot failure
  | noReadTimeout hfirst hconnect hsecond =>
      have hrest := Peer.timeouts_of_setTimeout htimeouts hfirst
      exact absurd hsecond (Peer.setTimeout_ne_error hrest)
  | unwritten hfirst hconnect hsecond hlong => exact absurd hport hlong
  | connected hfirst hconnect hsecond => exact .well hconnect ()

theorem Connecting.peer_eq {address : String} {port : Int}
    {step : Step Stop Unit}
    (hrun : Connecting settings address port peer step) :
    step.peer = { peer with timeouts := step.peer.timeouts } := by
  cases hrun with
  | noConnectTimeout hfirst => rw [Peer.eq_of_setTimeout hfirst]
  | refused hfirst => rw [Peer.eq_of_setTimeout hfirst]
  | noReadTimeout hfirst hconnect hsecond =>
      rw [Peer.eq_of_setTimeout hsecond, Peer.eq_of_setTimeout hfirst]
  | unwritten hfirst hconnect hsecond =>
      rw [Peer.eq_of_setTimeout hsecond, Peer.eq_of_setTimeout hfirst]
  | connected hfirst hconnect hsecond =>
      rw [Peer.eq_of_setTimeout hsecond, Peer.eq_of_setTimeout hfirst]

theorem Sending.ends {total : Nat} {rest : Octets} {step : Step Stop Unit}
    (hrun : Sending total rest peer step)
    (hsends : ∀ fault, .error fault ∈ peer.sends → fault.isSystem = true) :
    Ends (Peer.Accepts peer.sends rest.length) step.outcome := by
  induction hrun with
  | done => exact .well (by simp [Peer.Accepts]) ()
  | faulty hrest hsend =>
      obtain ⟨failure, hfailure, -⟩ := sendStop_of_system _ total
        (hsends _ (Peer.error_mem_of_send hsend))
      rw [hfailure]
      exact .failed (Peer.not_accepts_of_error hrest hsend) failure
  | closed hrest hsend =>
      apply Ends.failed
      rw [Peer.accepts_iff_of_ok hrest hsend]
      simp
  | @accepted rest peer after count step hrest hsend hnext ih =>
      have hafter (fault : Fault) (hmem : .error fault ∈ after.sends) :
          fault.isSystem = true := by
        rw [Peer.eq_of_send hsend] at hmem
        exact hsends fault (List.mem_of_mem_tail hmem)
      apply (ih hafter).congr
      rw [Peer.accepts_iff_of_ok hrest hsend]
      simp

theorem Sending.peer_eq {total : Nat} {rest : Octets} {step : Step Stop Unit}
    (hrun : Sending total rest peer step) :
    step.peer = { peer with sends := step.peer.sends } := by
  induction hrun with
  | done => rfl
  | faulty hrest hsend => rw [Peer.eq_of_send hsend]
  | closed hrest hsend => rw [Peer.eq_of_send hsend]
  | accepted hrest hsend hnext ih => rw [ih, Peer.eq_of_send hsend]

/-- The verdict on a response is that of its stream. -/
theorem Reception.ends [Memory] {step : Step Stop Response}
    (hreception : Reception settings peer step)
    (hvalid : 1 ≤ settings.responseLimit ∧ 1 ≤ settings.chunkSize)
    (hbuffer : settings.responseLimit < Memory.limit)
    (hincoming : ∀ fault, .error fault ∈ peer.incoming →
      fault.isSystem = true) :
    Ends (peer.ending = none ∧ peer.stream.length < settings.responseLimit)
      step.outcome := by
  have hreads := hreception.readsStream
    (Response.ofCapacity_eq_ok hvalid.1 hbuffer) hvalid.2
  by_cases hshort : peer.stream.length < settings.responseLimit
  · have hfits : peer.stream.length < settings.responseLimit.toNat := by omega
    cases hending : peer.ending with
    | none =>
        obtain ⟨response, houtcome, -⟩ := hreads.ended hfits hending
        rw [houtcome]
        exact .well ⟨rfl, hshort⟩ response
    | some fault =>
        have hsystem := hincoming fault (Peer.error_mem_of_ending hending)
        rw [(hreads.systemFault fault hfits hending hsystem).1]
        exact .failed (by simp) _
  · have hlong : settings.responseLimit.toNat ≤ peer.stream.length := by omega
    rw [(hreads.long hlong).1]
    exact .failed (by simp [hshort]) _

/-! ## The whole exchange -/

theorem Conversation.ends [Memory] {step : Step Stop Response}
    (hconversation : Conversation settings request octets peer step)
    (hport : Number.IsWritable request.port) (hpeer : peer.IsOrdinary)
    (hvalid : 1 ≤ settings.responseLimit ∧ 1 ≤ settings.chunkSize)
    (hbuffer : settings.responseLimit < Memory.limit)
    (hopened : peer.opening = .ok ()) :
    Ends (Succeeds settings octets peer) step.outcome := by
  cases hconversation with
  | @unresolved fault hresolution =>
      have hfails : ¬ Succeeds settings octets peer := by
        intro hsucceeds
        obtain ⟨address, haddress⟩ := hsucceeds.resolved
        simp [hresolution] at haddress
      have hstop : resolveStop request.host fault =
          .failure (.notResolved request.host fault) := by
        rcases hpeer.resolution fault hresolution with hsystem | hencoding
        · exact resolveStop_of_system hsystem
        · exact if_pos hencoding
      rw [hstop]
      exact .failed hfails _
  | unconnected hresolution hconnecting =>
      have hends := hconnecting.ends hport hpeer.timeouts hpeer.connecting
      cases hends with
      | failed hfails failure =>
          exact .failed (fun hsucceeds => hfails hsucceeds.connected) failure
  | unsent hresolution hconnecting hsending =>
      have hmiddle := hconnecting.peer_eq
      simp only at hmiddle
      have hends := hsending.ends (by rw [hmiddle]; exact hpeer.sends)
      rw [hmiddle] at hends
      cases hends with
      | failed hfails failure =>
          exact .failed (fun hsucceeds => hfails hsucceeds.accepted) failure
  | @answered address connecting sending middle late step hresolution
      hconnecting hsending hreception =>
      -- No stage touches the answers of a later one, so the verdict is on the stream of the peer itself.
      have hmiddle := hconnecting.peer_eq
      have hlate := hsending.peer_eq
      simp only at hmiddle hlate
      have hsame : late.incoming = peer.incoming := by rw [hlate, hmiddle]
      have hending : late.ending = peer.ending := by
        rw [Peer.ending, Peer.afterStream, hsame]
        rfl
      have hstream : late.stream = peer.stream := by
        rw [Peer.stream, hsame]
        rfl
      have hends := hreception.ends hvalid hbuffer
        (by rw [hsame]; exact hpeer.incoming)
      apply hends.congr
      rw [hending, hstream]
      constructor
      · rintro ⟨hended, hshort⟩
        have hconnected := hconnecting.ends hport hpeer.timeouts hpeer.connecting
        have haccepted := hsending.ends (by rw [hmiddle]; exact hpeer.sends)
        rw [hmiddle] at haccepted
        exact ⟨hopened, ⟨address, hresolution⟩, hconnected.of_ok,
          haccepted.of_ok, hended, hshort⟩
      · intro hsucceeds
        exact ⟨hsucceeds.ended, hsucceeds.short⟩

theorem run_ends [Memory] (hpeer : peer.IsOrdinary)
    (hvalid : 1 ≤ settings.responseLimit ∧ 1 ≤ settings.chunkSize)
    (hbuffer : settings.responseLimit < Memory.limit)
    (hport : Number.IsWritable request.port) (octets : Octets) :
    Ends (Succeeds settings octets peer)
      (run settings request octets peer).outcome := by
  cases hopening : peer.opening with
  | error fault =>
      rw [run_eq_of_opening_error settings request octets hopening,
        openStop_of_system (hpeer.opening fault hopening)]
      refine .failed ?_ _
      intro hsucceeds
      have hopened := hsucceeds.opened
      rw [hopening] at hopened
      contradiction
  | ok _ =>
      obtain ⟨step, hconversation, hrun⟩ :=
        run_eq_of_opening_ok settings request octets hopening
      rw [hrun, afterClosing_of_system step.outcome hpeer.closing]
      exact hconversation.ends hport hpeer hvalid hbuffer hopening

end Exchange

end RawPost
