import RawPost.Proofs.Course
import RawPost.Proofs.Wording

/-!
# What a sending offers

Each call of a sending offers all octets that have not been accepted yet.  So what is out is at every
moment a beginning of what there is to send, no octet goes out twice, and there are at most as many calls
as octets.

A sending that does not get everything out stops at a call that took nothing, and says what happened to
that call; if the call timed out or the connection was closed, it also says how many octets of how many
are out.
-/

namespace RawPost

namespace Exchange

/-- The sending stops with a failure to write that is told in these words. -/
def TellsOfWriting [Memory] (words : String) (stop : Stop) : Prop :=
  ∃ failure, stop = .failure failure ∧
    failure.report = .ok ⟨.writing, words, 1⟩

/-- What a sending stops with when `written` of `total` octets are out, by what its last call came to. -/
inductive StopsSending [Memory] (written total : Nat) : Except Fault Nat → Stop → Prop where
  | closed {stop : Stop}
      (hstop : TellsOfWriting
        ("Connection closed after " ++ Number.integerText written ++ " of " ++
          Number.integerText total ++ " bytes") stop) :
      StopsSending written total (.ok 0) stop
  | timedOut {fault : Fault} {stop : Stop} (htimeout : fault.isTimeout = true)
      (hstop : TellsOfWriting
        ("Timed out after writing " ++ Number.integerText written ++ " of " ++
          Number.integerText total ++ " bytes") stop) :
      StopsSending written total (.error fault) stop
  | refused {fault : Fault} {stop : Stop} (htimeout : fault.isTimeout = false)
      (hsystem : fault.isSystem = true)
      (hstop : TellsOfWriting
        ("Cannot write request to the socket: " ++ fault.text) stop) :
      StopsSending written total (.error fault) stop
  | untreated {fault : Fault} (hsystem : fault.isSystem = false) :
      StopsSending written total (.error fault) (.fault fault)

/-- The calls of a sending, and what it comes to. -/
structure OffersUnsent [Memory] (octets : Octets) (step : Step Stop Nat) : Prop where
  isSend : ∀ event ∈ step.events.calls, event.isSend = true
  length_le : step.events.calls.length ≤ octets.length
  offered_eq : ∀ (before : Trace) (offered : Octets) (answer : Except Fault Nat)
    (after : Trace), step.events.calls = before ++ .sent offered answer :: after →
      octets = before.written ++ offered
  written_isPrefix : ∀ before : Trace, before <+: step.events.calls →
    before.written <+: octets
  returns_iff : step.outcome = .ok octets.length ↔ step.events.written = octets
  stops : step.events.written ≠ octets →
    ∃ (before : Trace) (unsent : Octets) (answer : Except Fault Nat) (stop : Stop),
      step.events.calls = before ++ [.sent unsent answer] ∧
      octets = step.events.written ++ unsent ∧ unsent ≠ [] ∧
      step.outcome = .error stop ∧
      StopsSending step.events.written.length octets.length answer stop

theorem stopsSending_of_closed [Memory] (written total : Nat) :
    StopsSending written total (.ok 0)
      (.failure (.closedWhileSending written total)) := by
  exact .closed ⟨_, rfl, Failure.report_eq_wording _⟩

theorem stopsSending_of_fault [Memory] (written total : Nat) (fault : Fault) :
    StopsSending written total (.error fault) (sendStop written total fault) := by
  unfold sendStop Stop.ofSystem
  by_cases htimeout : fault.isTimeout = true
  · rw [if_pos htimeout]
    exact .timedOut htimeout ⟨_, rfl, Failure.report_eq_wording _⟩
  · rw [if_neg htimeout]
    by_cases hsystem : fault.isSystem = true
    · rw [if_pos hsystem]
      exact .refused (by simpa using htimeout) hsystem
        ⟨_, rfl, Failure.report_eq_wording _⟩
    · rw [if_neg hsystem]
      exact .untreated (by simpa using hsystem)

/-- A call that stops a sending took nothing. -/
theorem StopsSending.written_eq_nil [Memory] {written total : Nat}
    {answer : Except Fault Nat} {stop : Stop}
    (hstops : StopsSending written total answer stop) (offered : Octets) :
    (Event.sent offered answer).written = [] := by
  cases hstops <;> rfl

/-- What the only call of a trace offered is offered when nothing has been written. -/
theorem offered_of_singleton {rest offered : Octets}
    {first answer : Except Fault Nat} {before after : Trace}
    (hsplit : [.sent rest first] = before ++ .sent offered answer :: after) :
    rest = before.written ++ offered := by
  cases before with
  | nil =>
      rw [List.nil_append, List.cons.injEq, Event.sent.injEq] at hsplit
      exact hsplit.1.1
  | cons event before => simp at hsplit

namespace Sending

variable {total : Nat} {rest : Octets} {peer : Peer} {step : Step Stop Unit}

/-! ## Along the loop -/

theorem offered_eq (hrun : Sending total rest peer step)
    {before after : Trace} {offered : Octets} {answer : Except Fault Nat}
    (hsplit : step.events = before ++ .sent offered answer :: after) :
    rest = before.written ++ offered := by
  induction hrun generalizing before with
  | done => simp at hsplit
  | faulty => exact offered_of_singleton hsplit
  | closed => exact offered_of_singleton hsplit
  | @accepted rest peer after' count step hrest hsend hnext ih =>
      cases before with
      | nil =>
          simp only [List.nil_append, List.cons.injEq, Event.sent.injEq] at hsplit
          exact hsplit.1.1
      | cons first before =>
          rw [List.cons_append, List.cons.injEq] at hsplit
          rw [← hsplit.1, Trace.written_cons, List.append_assoc, ← ih hsplit.2]
          exact (List.take_append_drop (count + 1) rest).symm

theorem length_events_le (hrun : Sending total rest peer step) :
    step.events.length ≤ rest.length := by
  induction hrun with
  | done => exact le_rfl
  | faulty hrest hsend => exact List.length_pos_iff.mpr hrest
  | closed hrest hsend => exact List.length_pos_iff.mpr hrest
  | @accepted rest peer after count step hrest hsend hnext ih =>
      have hsome : 0 < rest.length := List.length_pos_iff.mpr hrest
      rw [List.length_drop] at ih
      rw [List.length_cons]
      omega

/-- A loop that stops early does so at its last call, which took nothing. -/
theorem exists_last_of_error [Memory] (hrun : Sending total rest peer step)
    {stop : Stop} (herror : step.outcome = .error stop) :
    ∃ (before : Trace) (unsent : Octets) (answer : Except Fault Nat),
      step.events = before ++ [.sent unsent answer] ∧
      unsent ≠ [] ∧ StopsSending (total - unsent.length) total answer stop := by
  induction hrun with
  | done => simp at herror
  | @faulty rest peer after fault hrest hsend =>
      rw [Except.error.injEq] at herror
      rw [← herror]
      exact ⟨[], rest, _, rfl, hrest, stopsSending_of_fault _ _ _⟩
  | @closed rest peer after hrest hsend =>
      rw [Except.error.injEq] at herror
      rw [← herror]
      exact ⟨[], rest, _, rfl, hrest, stopsSending_of_closed _ _⟩
  | @accepted rest peer after count step hrest hsend hnext ih =>
      obtain ⟨before, unsent, answer, hevents, hunsent, hstops⟩ := ih herror
      refine ⟨.sent rest (.ok (count + 1)) :: before, unsent, answer, ?_,
        hunsent, hstops⟩
      rw [hevents, List.cons_append]

theorem stops [Memory] (hrun : Sending total rest peer step) {stop : Stop}
    (herror : step.outcome = .error stop) (htotal : rest.length = total) :
    ∃ (before : Trace) (unsent : Octets) (answer : Except Fault Nat),
      step.events = before ++ [.sent unsent answer] ∧
      rest = step.events.written ++ unsent ∧ unsent ≠ [] ∧
      StopsSending step.events.written.length total answer stop := by
  obtain ⟨before, unsent, answer, hevents, hunsent, hstops⟩ :=
    hrun.exists_last_of_error herror
  have hwritten : step.events.written = before.written := by
    rw [hevents, Trace.written_append, Trace.written_cons,
      hstops.written_eq_nil unsent, Trace.written_nil, List.append_nil,
      List.append_nil]
  have hsplit : rest = step.events.written ++ unsent := by
    rw [hwritten]
    exact hrun.offered_eq hevents
  have hlength : total - unsent.length = step.events.written.length := by
    rw [← htotal]
    nth_rewrite 1 [hsplit]
    rw [List.length_append]
    omega
  rw [hlength] at hstops
  exact ⟨before, unsent, answer, hevents, hsplit, hunsent, hstops⟩

end Sending

/-! ## The whole sending -/

/-- At every call of a sending the octets that have been accepted and the octets that are offered are what
there is to send.  It returns exactly if all octets are out; otherwise its last call, which offered the
rest, says why. -/
theorem send_offersUnsent [Memory] (octets : Octets) (peer : Peer) :
    OffersUnsent octets (send octets peer) := by
  have hrun := sendRest_sending octets.length octets peer
  rcases hloop : sendRest octets.length octets peer with ⟨outcome, events, after⟩
  rw [hloop] at hrun
  have hcalls : (send octets peer).events.calls = events := by
    cases outcome with
    | error stop =>
        rw [send_eq_of_error hloop]
        exact hrun.calls_eq_self
    | ok _ =>
        rw [send_eq_of_ok hloop, Trace.calls_append, sentNote, Trace.calls_logged,
          Trace.calls_nil, List.append_nil]
        exact hrun.calls_eq_self
  have hwritten : (send octets peer).events.written = events.written := by
    rw [← Trace.written_calls, hcalls]
  constructor
  · rw [hcalls]
    exact hrun.isSend
  · rw [hcalls]
    exact hrun.length_events_le
  · intro before offered answer later hsplit
    rw [hcalls] at hsplit
    exact hrun.offered_eq hsplit
  · intro before hbefore
    rw [hcalls] at hbefore
    obtain ⟨later, rfl⟩ := hbefore
    have hwhole := hrun.written_isPrefix
    rw [Trace.written_append] at hwhole
    exact (List.prefix_append _ _).trans hwhole
  · rw [hwritten]
    cases outcome with
    | error stop =>
        obtain ⟨before, unsent, answer, -, hsplit, hunsent, -⟩ := hrun.stops rfl rfl
        have hmissing : events.written ≠ octets := by
          intro hall
          rw [hall] at hsplit
          exact hunsent (List.self_eq_append_right.mp hsplit)
        simp [send_eq_of_error hloop, hmissing]
    | ok _ => simp [send_eq_of_ok hloop, hrun.written_of_ok rfl]
  · rw [hwritten, hcalls]
    intro hmissing
    cases outcome with
    | error stop =>
        obtain ⟨before, unsent, answer, hevents, hsplit, hunsent, hstops⟩ :=
          hrun.stops rfl rfl
        refine ⟨before, unsent, answer, stop, hevents, hsplit, hunsent, ?_, hstops⟩
        rw [send_eq_of_error hloop]
    | ok _ => exact absurd (hrun.written_of_ok rfl) hmissing

end Exchange

end RawPost
