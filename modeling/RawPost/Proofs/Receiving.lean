import RawPost.Exchange
import RawPost.Proofs.Action
import RawPost.Proofs.Trace
import Mathlib.Tactic

/-!
# The receiving loop

A run of the receiving loop is given by the answers of the socket, as a run of the sending loop is.  It
ends with a full buffer, with the end of the stream, or with a fault; only a fault that is not the
system's leaves the loop as such.
-/

namespace RawPost.Exchange

/-- The note about a fault of the system in the middle of a response. -/
def readWarning (received : Nat) (fault : Fault) : Event :=
  .logged .warning
    ("Read failed after " ++ Number.integerText received ++ " bytes: " ++ fault.text)

/-- A run of the receiving loop from some point on, call by call. -/
inductive Receiving (chunkSize : Int) :
    Response → Peer → Step Stop (Response × Option Fault) → Prop where
  | full {response : Response} {peer : Peer}
      (hfull : response.isFull = true) :
      Receiving chunkSize response peer ⟨.ok (response, none), [], peer⟩
  | ended {response : Response} {peer after : Peer}
      (hfull : response.isFull = false)
      (hreceive : peer.receive (response.room chunkSize) = (.ok [], after)) :
      Receiving chunkSize response peer
        ⟨.ok (response, none),
          [.received (response.room chunkSize) (.ok [])], after⟩
  | noted {response : Response} {peer after : Peer} {fault : Fault}
      (hfull : response.isFull = false)
      (hreceive :
        peer.receive (response.room chunkSize) = (.error fault, after))
      (hsystem : fault.isSystem = true) :
      Receiving chunkSize response peer
        ⟨.ok (response, some fault),
          [.received (response.room chunkSize) (.error fault),
            readWarning response.received fault], after⟩
  | escaped {response : Response} {peer after : Peer} {fault : Fault}
      (hfull : response.isFull = false)
      (hreceive :
        peer.receive (response.room chunkSize) = (.error fault, after))
      (hsystem : fault.isSystem = false) :
      Receiving chunkSize response peer
        ⟨.error (.fault fault),
          [.received (response.room chunkSize) (.error fault)], after⟩
  | delivered {response : Response} {peer after : Peer} {octets : Octets}
      {step : Step Stop (Response × Option Fault)}
      (hfull : response.isFull = false)
      (hreceive :
        peer.receive (response.room chunkSize) = (.ok octets, after))
      (hoctets : octets ≠ [])
      (hnext : Receiving chunkSize (response.append octets) after step) :
      Receiving chunkSize response peer
        ⟨step.outcome,
          .received (response.room chunkSize) (.ok octets) :: step.events,
          step.peer⟩

theorem read_eq {response : Response} {chunkSize : Int} {peer after : Peer}
    {answer : Except Fault Octets}
    (hfull : response.isFull = false)
    (hreceive : peer.receive (response.room chunkSize) = (answer, after)) :
    ((response.read chunkSize).attempt : Action Stop (Except Fault Octets)) peer =
      ⟨.ok answer, [.received (response.room chunkSize) answer], after⟩ := by
  simp only [Response.read, hfull, Bool.false_eq_true, if_false, Action.attempt,
    Action.receiveSome_eq hreceive]

theorem receiveInto_receiving (chunkSize : Int) (response : Response)
    (peer : Peer) :
    Receiving chunkSize response peer
      (receiveInto chunkSize response peer) := by
  -- Every call that is not the last one takes up free space.
  induction hfree : response.free using Nat.strong_induction_on
    generalizing response peer with
  | _ free ih =>
      by_cases hfull : response.isFull = true
      · rw [receiveInto, if_pos hfull]
        exact .full hfull
      · have hopen : response.isFull = false := by simpa using hfull
        rcases hreceive : peer.receive (response.room chunkSize) with
          ⟨answer, after⟩
        rw [receiveInto, if_neg hfull,
          Action.bind_eq_of_ok (read_eq hopen hreceive)]
        cases answer with
        | error fault =>
            by_cases hsystem : fault.isSystem = true
            · simp only [hsystem, if_true]
              exact .noted hopen hreceive hsystem
            · simp only [hsystem, Bool.false_eq_true, if_false]
              exact .escaped hopen hreceive (by simpa using hsystem)
        | ok octets =>
            cases octets with
            | nil => exact .ended hopen hreceive
            | cons octet rest =>
                have hless :
                    (response.append (octet :: rest)).free < free := by
                  rw [← hfree]
                  exact Response.free_append_lt hopen (List.cons_ne_nil _ _)
                exact .delivered hopen hreceive (List.cons_ne_nil _ _)
                  (ih _ hless (response.append (octet :: rest)) after rfl)

namespace Receiving

variable {chunkSize : Int} {response : Response} {peer : Peer}
  {step : Step Stop (Response × Option Fault)}

theorem isReceive (hrun : Receiving chunkSize response peer step) :
    ∀ event ∈ step.events.calls, event.isReceive = true := by
  induction hrun with
  | full => simp
  | ended => simp [Trace.calls, Event.isLogged, Event.isReceive]
  | noted => simp [Trace.calls, readWarning, Event.isLogged, Event.isReceive]
  | escaped => simp [Trace.calls, Event.isLogged, Event.isReceive]
  | delivered hfull hreceive hoctets hnext ih =>
      rw [Trace.calls_cons rfl]
      simpa [Event.isReceive] using ih

theorem closing_eq (hrun : Receiving chunkSize response peer step) :
    step.peer.closing = peer.closing := by
  induction hrun with
  | full => rfl
  | @ended response peer after hfull hreceive =>
      simpa [hreceive] using Peer.receive_closing peer (response.room chunkSize)
  | @noted response peer after fault hfull hreceive hsystem =>
      simpa [hreceive] using Peer.receive_closing peer (response.room chunkSize)
  | @escaped response peer after fault hfull hreceive hsystem =>
      simpa [hreceive] using Peer.receive_closing peer (response.room chunkSize)
  | @delivered response peer after octets step hfull hreceive hoctets hnext ih =>
      have hafter : after.closing = peer.closing := by
        simpa [hreceive] using
          Peer.receive_closing peer (response.room chunkSize)
      exact ih.trans hafter

theorem stopsWhenBroken (hrun : Receiving chunkSize response peer step) :
    step.events.calls.StopsWhenBroken := by
  induction hrun with
  | full => exact Trace.Unbroken.stopsWhenBroken (by simp [Trace.Unbroken])
  | ended => exact Trace.stopsWhenBroken_singleton _
  | noted => exact Trace.stopsWhenBroken_singleton _
  | escaped => exact Trace.stopsWhenBroken_singleton _
  | delivered hfull hreceive hoctets hnext ih =>
      rw [Trace.calls_cons rfl]
      exact ih.cons rfl

theorem unbroken_of_none (hrun : Receiving chunkSize response peer step)
    {last : Response} (hok : step.outcome = .ok (last, none)) :
    step.events.Unbroken := by
  induction hrun with
  | full => simp [Trace.Unbroken]
  | ended => simp [Trace.Unbroken, Event.isBroken, Event.fault?]
  | noted => simp at hok
  | escaped => simp at hok
  | delivered hfull hreceive hoctets hnext ih =>
      intro event hmem
      rcases List.mem_cons.mp hmem with rfl | hmem
      · rfl
      · exact ih hok event hmem

theorem response_of_ok (hrun : Receiving chunkSize response peer step)
    {last : Response} {fault : Option Fault}
    (hok : step.outcome = .ok (last, fault)) :
    last = response.append step.events.delivered := by
  induction hrun with
  | full =>
      simp only [Except.ok.injEq, Prod.mk.injEq] at hok
      simp [← hok.1, Response.append]
  | ended =>
      simp only [Except.ok.injEq, Prod.mk.injEq] at hok
      simp [← hok.1, Response.append, Event.delivered]
  | noted =>
      simp only [Except.ok.injEq, Prod.mk.injEq] at hok
      simp [← hok.1, Response.append, readWarning, Event.delivered]
  | escaped => simp at hok
  | delivered hfull hreceive hoctets hnext ih =>
      rw [ih hok, Trace.delivered_cons]
      simp [Response.append, Event.delivered]

/-- A fault that the loop keeps is the system's, and nothing was asked for after it. -/
theorem lastCall?_of_fault (hrun : Receiving chunkSize response peer step)
    {last : Response} {fault : Fault}
    (hok : step.outcome = .ok (last, some fault)) :
    fault.isSystem = true ∧
      ∃ room, step.events.lastCall? = some (.received room (.error fault)) := by
  induction hrun with
  | full => simp at hok
  | ended => simp at hok
  | @noted response peer after other hfull hreceive hsystem =>
      simp only [Except.ok.injEq, Prod.mk.injEq, Option.some.injEq] at hok
      rw [← hok.2]
      refine ⟨hsystem, response.room chunkSize, ?_⟩
      exact (Trace.lastCall?_logged [_] .warning _).trans
        (Trace.lastCall?_singleton rfl rfl)
  | escaped => simp at hok
  | delivered hfull hreceive hoctets hnext ih =>
      obtain ⟨hsystem, room, hlast⟩ := ih hok
      exact ⟨hsystem, room, Trace.lastCall?_cons hlast⟩

theorem lastCall?_of_error (hrun : Receiving chunkSize response peer step)
    {stop : Stop} (herror : step.outcome = .error stop) :
    ∃ fault room, stop = .fault fault ∧ fault.isSystem = false ∧
      step.events.lastCall? = some (.received room (.error fault)) := by
  induction hrun with
  | full => simp at herror
  | ended => simp at herror
  | noted => simp at herror
  | @escaped response peer after fault hfull hreceive hsystem =>
      simp only [Except.error.injEq] at herror
      exact ⟨fault, response.room chunkSize, herror.symm, hsystem,
        Trace.lastCall?_singleton rfl rfl⟩
  | delivered hfull hreceive hoctets hnext ih =>
      obtain ⟨fault, room, hstop, hsystem, hlast⟩ := ih herror
      exact ⟨fault, room, hstop, hsystem, Trace.lastCall?_cons hlast⟩

theorem lastCall?_of_free (hrun : Receiving chunkSize response peer step)
    (hfree : response.isFull = false) :
    ∃ room answer, step.events.lastCall? = some (.received room answer) := by
  induction hrun with
  | full hfull => simp [hfull] at hfree
  | ended => exact ⟨_, _, Trace.lastCall?_singleton rfl rfl⟩
  | noted =>
      exact ⟨_, _, (Trace.lastCall?_logged [_] .warning _).trans
        (Trace.lastCall?_singleton rfl rfl)⟩
  | escaped => exact ⟨_, _, Trace.lastCall?_singleton rfl rfl⟩
  | @delivered response peer after octets step hfull hreceive hoctets hnext ih =>
      by_cases hnow : (response.append octets).isFull = true
      · cases hnext with
        | full => exact ⟨_, _, Trace.lastCall?_singleton rfl rfl⟩
        | _ => simp_all
      · obtain ⟨room, answer, hlast⟩ := ih (by simpa using hnow)
        exact ⟨room, answer, Trace.lastCall?_cons hlast⟩

end Receiving

end RawPost.Exchange
