import RawPost.Connection.Action

/-!
# Actions in sequence

An action in front of another one either stops the sequence or hands its value and what remains of the
peer to the next.
-/

namespace RawPost.Action

variable {ε ε' α β : Type} {action : Action ε α} {next : α → Action ε β}
  {peer after : Peer} {events : Trace}

theorem bind_eq_of_ok {a : α}
    (haction : action peer = ⟨.ok a, events, after⟩) :
    (action >>= next) peer =
      ⟨(next a after).outcome, events ++ (next a after).events,
        (next a after).peer⟩ := by
  change andThen action next peer = _
  simp only [andThen, haction]

theorem bind_eq_of_error {e : ε}
    (haction : action peer = ⟨.error e, events, after⟩) :
    (action >>= next) peer = ⟨.error e, events, after⟩ := by
  change andThen action next peer = _
  simp only [andThen, haction]

theorem mapError_eq_of_ok {a : α} (meaning : ε → ε')
    (haction : action peer = ⟨.ok a, events, after⟩) :
    action.mapError meaning peer = ⟨.ok a, events, after⟩ := by
  simp only [mapError, haction]
  rfl

theorem mapError_eq_of_error {e : ε} (meaning : ε → ε')
    (haction : action peer = ⟨.error e, events, after⟩) :
    action.mapError meaning peer = ⟨.error (meaning e), events, after⟩ := by
  simp only [mapError, haction]
  rfl

theorem setTimeout_eq {timeout : Timeout} {result : Except Fault Unit}
    (hanswer : peer.setTimeout = (result, after)) :
    setTimeout timeout peer = ⟨result, [.timeoutSet timeout result], after⟩ := by
  simp only [setTimeout, hanswer]

theorem sendSome_eq {offered : Octets} {result : Except Fault Nat}
    (hanswer : peer.send offered = (result, after)) :
    sendSome offered peer = ⟨result, [.sent offered result], after⟩ := by
  simp only [sendSome, hanswer]

theorem receiveSome_eq {room : Nat} {result : Except Fault Octets}
    (hanswer : peer.receive room = (result, after)) :
    receiveSome room peer = ⟨result, [.received room result], after⟩ := by
  simp only [receiveSome, hanswer]

end RawPost.Action

namespace RawPost.Peer

/-! ## What a call leaves alone -/

@[simp] theorem setTimeout_connecting (peer : Peer) :
    peer.setTimeout.2.connecting = peer.connecting := by
  unfold setTimeout
  split <;> rfl

@[simp] theorem setTimeout_closing (peer : Peer) :
    peer.setTimeout.2.closing = peer.closing := by
  unfold setTimeout
  split <;> rfl

@[simp] theorem send_closing (peer : Peer) (offered : Octets) :
    (peer.send offered).2.closing = peer.closing := by
  unfold send
  split <;> rfl

@[simp] theorem receive_closing (peer : Peer) (room : Nat) :
    (peer.receive room).2.closing = peer.closing := by
  unfold receive
  split <;> rfl

end RawPost.Peer
