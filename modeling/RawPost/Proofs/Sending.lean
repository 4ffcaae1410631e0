import RawPost.Exchange
import RawPost.Proofs.Action
import RawPost.Proofs.Trace
import Mathlib.Tactic

/-!
# The sending loop

A run of the sending loop is given by the answers of the socket: each call offers what is left of the
octets, and the loop goes on as long as something is accepted.  What a run does follows by induction over
its calls.
-/

namespace RawPost.Exchange

/-- A run of the sending loop from some point on, call by call. -/
inductive Sending (total : Nat) : Octets → Peer → Step Stop Unit → Prop where
  | done (peer : Peer) :
      Sending total [] peer ⟨.ok (), [], peer⟩
  | faulty {rest : Octets} {peer after : Peer} {fault : Fault}
      (hrest : rest ≠ []) (hsend : peer.send rest = (.error fault, after)) :
      Sending total rest peer
        ⟨.error (sendStop (total - rest.length) total fault),
          [.sent rest (.error fault)], after⟩
  | closed {rest : Octets} {peer after : Peer}
      (hrest : rest ≠ []) (hsend : peer.send rest = (.ok 0, after)) :
      Sending total rest peer
        ⟨.error (.failure (.closedWhileSending (total - rest.length) total)),
          [.sent rest (.ok 0)], after⟩
  | accepted {rest : Octets} {peer after : Peer} {count : Nat}
      {step : Step Stop Unit}
      (hrest : rest ≠ [])
      (hsend : peer.send rest = (.ok (count + 1), after))
      (hnext : Sending total (rest.drop (count + 1)) after step) :
      Sending total rest peer
        ⟨step.outcome, .sent rest (.ok (count + 1)) :: step.events, step.peer⟩

theorem sendRest_sending (total : Nat) (rest : Octets) (peer : Peer) :
    Sending total rest peer (sendRest total rest peer) := by
  -- Every call that is not the last one shortens the rest.
  induction hlength : rest.length using Nat.strong_induction_on
    generalizing rest peer with
  | _ length ih =>
      cases rest with
      | nil =>
          rw [sendRest]
          exact .done peer
      | cons octet rest =>
          have hne : octet :: rest ≠ [] := List.cons_ne_nil octet rest
          rcases hsend : peer.send (octet :: rest) with ⟨answer, after⟩
          rw [sendRest]
          cases answer with
          | error fault =>
              rw [Action.bind_eq_of_error
                (Action.mapError_eq_of_error _ (Action.sendSome_eq hsend))]
              exact .faulty hne hsend
          | ok count =>
              rw [Action.bind_eq_of_ok
                (Action.mapError_eq_of_ok _ (Action.sendSome_eq hsend))]
              cases count with
              | zero => exact .closed hne hsend
              | succ count =>
                  have hshorter : (rest.drop count).length < length := by
                    simp only [List.length_drop]
                    simp only [List.length_cons] at hlength
                    omega
                  exact .accepted hne hsend
                    (ih _ hshorter (rest.drop count) after rfl)

namespace Sending

variable {total : Nat} {rest : Octets} {peer : Peer} {step : Step Stop Unit}

theorem isSend (hrun : Sending total rest peer step) :
    ∀ event ∈ step.events, event.isSend = true := by
  induction hrun with
  | done => simp
  | faulty => simp [Event.isSend]
  | closed => simp [Event.isSend]
  | accepted hrest hsend hnext ih => simpa [Event.isSend] using ih

theorem closing_eq (hrun : Sending total rest peer step) :
    step.peer.closing = peer.closing := by
  induction hrun with
  | done => rfl
  | @faulty rest peer after fault hrest hsend =>
      simpa [hsend] using Peer.send_closing peer rest
  | @closed rest peer after hrest hsend =>
      simpa [hsend] using Peer.send_closing peer rest
  | @accepted rest peer after count step hrest hsend hnext ih =>
      have hafter : after.closing = peer.closing := by
        simpa [hsend] using Peer.send_closing peer rest
      exact ih.trans hafter

theorem written_isPrefix (hrun : Sending total rest peer step) :
    step.events.written <+: rest := by
  induction hrun with
  | done => simp
  | faulty => simp [Event.written]
  | closed => simp [Event.written]
  | @accepted rest peer after count step hrest hsend hnext ih =>
      obtain ⟨unsent, hunsent⟩ := ih
      refine ⟨unsent, ?_⟩
      rw [Trace.written_cons, Event.written, List.append_assoc, hunsent]
      exact List.take_append_drop (count + 1) rest

theorem stopsWhenBroken (hrun : Sending total rest peer step) :
    step.events.StopsWhenBroken := by
  induction hrun with
  | done => exact Trace.Unbroken.stopsWhenBroken (by simp [Trace.Unbroken])
  | faulty => exact Trace.stopsWhenBroken_singleton _
  | closed => exact Trace.stopsWhenBroken_singleton _
  | accepted hrest hsend hnext ih => exact ih.cons rfl

theorem written_of_ok (hrun : Sending total rest peer step)
    (hok : step.outcome = .ok ()) :
    step.events.written = rest := by
  induction hrun with
  | done => rfl
  | faulty => simp at hok
  | closed => simp at hok
  | @accepted rest peer after count step hrest hsend hnext ih =>
      rw [Trace.written_cons, Event.written, ih hok]
      exact List.take_append_drop (count + 1) rest

theorem unbroken_of_ok (hrun : Sending total rest peer step)
    (hok : step.outcome = .ok ()) :
    step.events.Unbroken := by
  induction hrun with
  | done => simp [Trace.Unbroken]
  | faulty => simp at hok
  | closed => simp at hok
  | accepted hrest hsend hnext ih =>
      intro event hmem
      rcases List.mem_cons.mp hmem with rfl | hmem
      · rfl
      · exact ih hok event hmem

/-- The loop stops early only because of its last call, which says why. -/
theorem lastCall?_of_error (hrun : Sending total rest peer step)
    {stop : Stop} (herror : step.outcome = .error stop) :
    ∃ offered sent,
      (∃ fault, step.events.lastCall? = some (.sent offered (.error fault)) ∧
        stop = sendStop sent total fault) ∨
      (step.events.lastCall? = some (.sent offered (.ok 0)) ∧
        stop = .failure (.closedWhileSending sent total)) := by
  induction hrun with
  | done => simp at herror
  | @faulty rest peer after fault hrest hsend =>
      simp only [Except.error.injEq] at herror
      exact ⟨rest, _, .inl
        ⟨fault, Trace.lastCall?_singleton rfl rfl, herror.symm⟩⟩
  | @closed rest peer after hrest hsend =>
      simp only [Except.error.injEq] at herror
      exact ⟨rest, _, .inr
        ⟨Trace.lastCall?_singleton rfl rfl, herror.symm⟩⟩
  | accepted hrest hsend hnext ih =>
      obtain ⟨offered, sent, ⟨fault, hlast, hstop⟩ | ⟨hlast, hstop⟩⟩ := ih herror
      · exact ⟨offered, sent, .inl ⟨fault, Trace.lastCall?_cons hlast, hstop⟩⟩
      · exact ⟨offered, sent, .inr ⟨Trace.lastCall?_cons hlast, hstop⟩⟩

end Sending

end RawPost.Exchange
