import RawPost.Proofs.Receiving
import RawPost.Proofs.Storage
import RawPost.Proofs.Stream

/-!
# Filling a buffer call by call

A response is filled by calls, each with a chunk size of its own; a call that meets a fault is followed by
further calls like any other.  Whatever the chunk sizes are, no octet gets lost, comes twice or changes its
place: what is in the buffer and what the peer still has are the octets that the peer had at first.  The
calls on the cells of a buffer in place do the same.

The receiving loop of an exchange is such a run of calls.
-/

namespace RawPost

namespace Peer

/-- All octets that are still to come, whatever ends or faults are between them. -/
def pendingOf : List (Except Fault Octets) → Octets
  | [] => []
  | .ok chunk :: rest => chunk ++ pendingOf rest
  | .error _ :: rest => pendingOf rest

def pending (peer : Peer) : Octets :=
  pendingOf peer.incoming

/-- The next thing to come is the end of the stream. -/
def AtEnd (peer : Peer) : Prop :=
  ∀ answer ∈ peer.incoming.head?, answer = .ok []

theorem pendingOf_leftover (room : Nat) (chunk : Octets)
    (rest : List (Except Fault Octets)) :
    chunk.take room ++ pendingOf (leftover room chunk rest) =
      chunk ++ pendingOf rest := by
  unfold leftover
  by_cases hfits : chunk.length ≤ room
  · rw [if_pos hfits, List.take_of_length_le hfits]
  · rw [if_neg hfits, pendingOf, ← List.append_assoc, List.take_append_drop]

variable {peer after : Peer} {room : Nat}

theorem pending_of_receive_error {fault : Fault}
    (hreceive : peer.receive room = (.error fault, after)) :
    after.pending = peer.pending := by
  unfold receive at hreceive
  split at hreceive
  next => simp at hreceive
  next other rest hincoming =>
    simp only [Prod.mk.injEq] at hreceive
    rw [← hreceive.2, pending, pending, hincoming, pendingOf]
  next => simp at hreceive

theorem pending_of_receive_ok {octets : Octets}
    (hreceive : peer.receive room = (.ok octets, after)) :
    octets.length ≤ room ∧ octets ++ after.pending = peer.pending := by
  unfold receive at hreceive
  split at hreceive
  next =>
    simp only [Prod.mk.injEq, Except.ok.injEq] at hreceive
    obtain ⟨rfl, rfl⟩ := hreceive
    simp
  next => simp at hreceive
  next chunk rest hincoming =>
    simp only [Prod.mk.injEq, Except.ok.injEq] at hreceive
    obtain ⟨rfl, rfl⟩ := hreceive
    constructor
    · exact List.length_take_le _ _
    · rw [pending, pending, hincoming, pendingOf]
      exact pendingOf_leftover room chunk rest

theorem receive_eq_nil_iff (hroom : 0 < room) :
    (peer.receive room).1 = .ok [] ↔ peer.AtEnd := by
  unfold receive AtEnd
  split
  next hincoming => simp [hincoming]
  next fault rest hincoming => simp [hincoming]
  next chunk rest hincoming =>
    simp only [hincoming, List.head?_cons, Option.mem_def, Option.some.injEq,
      forall_eq', Except.ok.injEq, List.take_eq_nil_iff]
    constructor
    · rintro (hzero | hnil)
      · omega
      · exact hnil
    · exact .inr

end Peer

/-- What a call came to, what it asked for, and what it left. -/
structure Call (α : Type) where
  result : Except Fault Nat
  events : Trace
  buffer : α
  peer : Peer

/-- Calls one after another; none of them is left out because of a fault. -/
def Call.run {α : Type} (call : α → Int → Peer → Call α) (chunkSizes : List Int)
    (start : α × Peer) : α × Peer :=
  chunkSizes.foldl
    (fun state chunkSize =>
      let made := call state.1 chunkSize state.2
      (made.buffer, made.peer))
    start

/-- Reads the next octets into a response and says how many there were. -/
def Response.call (response : Response) (chunkSize : Int) (peer : Peer) :
    Call Response :=
  let step := response.read chunkSize peer
  match step.outcome with
  | .error fault => ⟨.error fault, step.events, response, step.peer⟩
  | .ok octets =>
    ⟨.ok octets.length, step.events, response.append octets, step.peer⟩

/-- Reads the next octets into the cells of a view. -/
def Storage.call (storage : Storage) (chunkSize : Int) (peer : Peer) :
    Call Storage :=
  if storage.filled = storage.cells.length then
    ⟨.ok 0, [], storage, peer⟩
  else
    let room := storage.viewLength chunkSize
    let (answer, after) := peer.receive room
    match answer with
    | .error fault =>
      ⟨.error fault, [.received room answer], storage, after⟩
    | .ok octets =>
      ⟨.ok octets.length, [.received room answer], storage.write octets, after⟩

/-! ## One call -/

namespace Response

/-- The ways a call goes. -/
inductive Calling (response : Response) (chunkSize : Int) (peer : Peer) :
    Call Response → Prop where
  | full (hfull : response.isFull = true) :
      Calling response chunkSize peer ⟨.ok 0, [], response, peer⟩
  | failed {fault : Fault} {after : Peer}
      (hfree : response.isFull = false)
      (hreceive :
        peer.receive (response.room chunkSize) = (.error fault, after)) :
      Calling response chunkSize peer
        ⟨.error fault, [.received (response.room chunkSize) (.error fault)],
          response, after⟩
  | taken {octets : Octets} {after : Peer}
      (hfree : response.isFull = false)
      (hreceive :
        peer.receive (response.room chunkSize) = (.ok octets, after)) :
      Calling response chunkSize peer
        ⟨.ok octets.length, [.received (response.room chunkSize) (.ok octets)],
          response.append octets, after⟩

theorem call_of_full {response : Response} (hfull : response.isFull = true)
    (chunkSize : Int) (peer : Peer) :
    response.call chunkSize peer = ⟨.ok 0, [], response, peer⟩ := by
  have hread : response.read chunkSize = Action.done [] := if_pos hfull
  have hsame : response.append [] = response := by simp [append]
  simp only [call, hread, Action.done, hsame, List.length_nil]

theorem read_of_free {response : Response} (hfree : response.isFull = false)
    (chunkSize : Int) :
    response.read chunkSize = Action.receiveSome (response.room chunkSize) :=
  if_neg (by simp [hfree])

theorem call_of_error {response : Response} {chunkSize : Int}
    {peer after : Peer} {fault : Fault} (hfree : response.isFull = false)
    (hreceive : peer.receive (response.room chunkSize) = (.error fault, after)) :
    response.call chunkSize peer =
      ⟨.error fault, [.received (response.room chunkSize) (.error fault)],
        response, after⟩ := by
  simp only [call, read_of_free hfree, Action.receiveSome_eq hreceive]

theorem call_of_ok {response : Response} {chunkSize : Int}
    {peer after : Peer} {octets : Octets} (hfree : response.isFull = false)
    (hreceive : peer.receive (response.room chunkSize) = (.ok octets, after)) :
    response.call chunkSize peer =
      ⟨.ok octets.length, [.received (response.room chunkSize) (.ok octets)],
        response.append octets, after⟩ := by
  simp only [call, read_of_free hfree, Action.receiveSome_eq hreceive]

theorem call_calling (response : Response) (chunkSize : Int) (peer : Peer) :
    Calling response chunkSize peer (response.call chunkSize peer) := by
  by_cases hfull : response.isFull = true
  · rw [call_of_full hfull]
    exact .full hfull
  · have hfree : response.isFull = false := by simpa using hfull
    rcases hreceive : peer.receive (response.room chunkSize) with ⟨answer, after⟩
    cases answer with
    | error fault =>
        rw [call_of_error hfree hreceive]
        exact .failed hfree hreceive
    | ok octets =>
        rw [call_of_ok hfree hreceive]
        exact .taken hfree hreceive

/-- Around the beginning of the buffer or not, a view has no more room than there is free space. -/
theorem room_le_free (response : Response) (chunkSize : Int) :
    response.room chunkSize ≤ response.free := by
  unfold room free
  split
  · omega
  · split <;> omega

example : (⟨4, [7]⟩ : Response).room (-2) = 2 := by decide

namespace Calling

variable {response : Response} {chunkSize : Int} {peer : Peer}
  {made : Call Response}

theorem capacity_eq (hcall : Calling response chunkSize peer made) :
    made.buffer.capacity = response.capacity := by
  cases hcall <;> rfl

theorem received_le (hcall : Calling response chunkSize peer made)
    (hreceived : response.received ≤ response.capacity) :
    made.buffer.received ≤ made.buffer.capacity := by
  cases hcall with
  | full => exact hreceived
  | failed => exact hreceived
  | taken hfree hreceive =>
      have hroom := response.room_le_free chunkSize
      have hoctets := (Peer.pending_of_receive_ok hreceive).1
      simp only [free, received, append, List.length_append] at *
      omega

theorem octets_conserved (hcall : Calling response chunkSize peer made) :
    made.buffer.octets ++ made.peer.pending =
      response.octets ++ peer.pending := by
  cases hcall with
  | full => rfl
  | failed hfree hreceive => rw [Peer.pending_of_receive_error hreceive]
  | taken hfree hreceive =>
      rw [← (Peer.pending_of_receive_ok hreceive).2, ← List.append_assoc]
      rfl

theorem octets_kept (hcall : Calling response chunkSize peer made) :
    response.octets <+: made.buffer.octets := by
  cases hcall with
  | full => exact List.prefix_rfl
  | failed => exact List.prefix_rfl
  | taken => exact List.prefix_append _ _

theorem received_eq (hcall : Calling response chunkSize peer made) {count : Nat}
    (hresult : made.result = .ok count) :
    made.buffer.received = response.received + count := by
  cases hcall with
  | full =>
      simp only [Except.ok.injEq] at hresult
      rw [← hresult, Nat.add_zero]
  | failed => simp at hresult
  | taken =>
      simp only [Except.ok.injEq] at hresult
      rw [← hresult, received, append, List.length_append, received]

theorem buffer_eq_of_error (hcall : Calling response chunkSize peer made)
    {fault : Fault} (hresult : made.result = .error fault) :
    made.buffer = response := by
  cases hcall with
  | full => rfl
  | failed => rfl
  | taken => simp at hresult

theorem events_of_free (hcall : Calling response chunkSize peer made)
    (hfree : response.isFull = false) :
    ∃ answer, made.events = [.received (response.room chunkSize) answer] := by
  cases hcall with
  | full hfull => simp [hfree] at hfull
  | failed => exact ⟨_, rfl⟩
  | taken => exact ⟨_, rfl⟩

/-- A call that may ask for something gets nothing only from a full buffer or at the end of the stream. -/
theorem result_eq_zero_iff (hcall : Calling response chunkSize peer made)
    (hchunk : 1 ≤ chunkSize) :
    made.result = .ok 0 ↔ response.isFull = true ∨ peer.AtEnd := by
  cases hcall with
  | full hfull => simp [hfull]
  | failed hfree hreceive =>
      have hroom := room_pos hchunk hfree
      rw [← Peer.receive_eq_nil_iff hroom, hreceive]
      simp [hfree]
  | taken hfree hreceive =>
      have hroom := room_pos hchunk hfree
      rw [← Peer.receive_eq_nil_iff hroom, hreceive]
      simp [hfree]

end Calling

end Response

/-! ## The same call in place -/

/-- A call on the cells says and leaves what the call on the response does. -/
structure Call.Agrees (inPlace : Call Storage) (made : Call Response) : Prop where
  result_eq : inPlace.result = made.result
  events_eq : inPlace.events = made.events
  peer_eq : inPlace.peer = made.peer
  holds : inPlace.buffer.Holds made.buffer

namespace Storage

variable {storage : Storage} {response : Response}

theorem Holds.isFull_iff (hholds : storage.Holds response) :
    response.isFull = true ↔ storage.filled = storage.cells.length := by
  have hfilled := hholds.filled_le
  have hreceived := hholds.received_eq
  have hlength := hholds.length_eq
  unfold Response.isFull Response.free
  rw [beq_iff_eq]
  omega

theorem Holds.call_agrees (hholds : storage.Holds response) (chunkSize : Int)
    (peer : Peer) :
    Call.Agrees (storage.call chunkSize peer) (response.call chunkSize peer) := by
  have hroom := hholds.viewLength_eq chunkSize
  have hcall := response.call_calling chunkSize peer
  generalize response.call chunkSize peer = made at hcall
  cases hcall with
  | full hfull =>
      rw [call, if_pos (hholds.isFull_iff.mp hfull)]
      exact ⟨rfl, rfl, rfl, hholds⟩
  | failed hfree hreceive =>
      have hopen : ¬ storage.filled = storage.cells.length := by
        rw [← hholds.isFull_iff, hfree]
        decide
      simp only [call, if_neg hopen, hroom, hreceive]
      exact ⟨rfl, rfl, rfl, hholds⟩
  | taken hfree hreceive =>
      have hopen : ¬ storage.filled = storage.cells.length := by
        rw [← hholds.isFull_iff, hfree]
        decide
      simp only [call, if_neg hopen, hroom, hreceive]
      refine ⟨rfl, rfl, rfl, hholds.write ?_⟩
      have hfits := (Peer.pending_of_receive_ok hreceive).1
      have hinside := response.room_le_free chunkSize
      have hreceived := hholds.received_le
      unfold Response.free at hinside
      rw [hholds.received_eq, ← hholds.length_eq] at *
      omega

end Storage

/-! ## A run of calls -/

theorem Call.run_cons {α : Type} (call : α → Int → Peer → Call α)
    (chunkSize : Int) (chunkSizes : List Int) (buffer : α) (peer : Peer) :
    run call (chunkSize :: chunkSizes) (buffer, peer) =
      run call chunkSizes
        ((call buffer chunkSize peer).buffer, (call buffer chunkSize peer).peer) :=
  rfl

/-- What a run of calls on a response has kept. -/
structure Response.Kept (start : Response × Peer) (reached : Response × Peer) :
    Prop where
  capacity_eq : reached.1.capacity = start.1.capacity
  received_le : reached.1.received ≤ reached.1.capacity
  octets_conserved :
    reached.1.octets ++ reached.2.pending = start.1.octets ++ start.2.pending

theorem Response.run_kept (chunkSizes : List Int) {response : Response}
    (peer : Peer) (hreceived : response.received ≤ response.capacity) :
    Kept (response, peer) (Call.run call chunkSizes (response, peer)) := by
  -- A call keeps the invariant from any state, so the rest of the run starts from a state like the first.
  induction chunkSizes generalizing response peer with
  | nil => exact ⟨rfl, hreceived, rfl⟩
  | cons chunkSize chunkSizes ih =>
      have hcall := response.call_calling chunkSize peer
      have hrest := ih (response.call chunkSize peer).peer
        (hcall.received_le hreceived)
      rw [Call.run_cons]
      constructor
      · exact hrest.capacity_eq.trans hcall.capacity_eq
      · exact hrest.received_le
      · exact hrest.octets_conserved.trans hcall.octets_conserved

theorem Storage.Holds.run {storage : Storage} {response : Response}
    (hholds : storage.Holds response) (chunkSizes : List Int) (peer : Peer) :
    (Call.run Storage.call chunkSizes (storage, peer)).1.Holds
        (Call.run Response.call chunkSizes (response, peer)).1 ∧
      (Call.run Storage.call chunkSizes (storage, peer)).2 =
        (Call.run Response.call chunkSizes (response, peer)).2 := by
  induction chunkSizes generalizing storage response peer with
  | nil => exact ⟨hholds, rfl⟩
  | cons chunkSize chunkSizes ih =>
      have hcall := hholds.call_agrees chunkSize peer
      rw [Call.run_cons, Call.run_cons, hcall.peer_eq]
      exact ih hcall.holds (response.call chunkSize peer).peer

/-- The receiving loop makes calls of one chunk size and ends with what they have left. -/
theorem Exchange.Receiving.run_calls {chunkSize : Int} {response : Response}
    {peer : Peer} {step : Step Stop (Response × Option Fault)}
    (hrun : Receiving chunkSize response peer step) :
    ∃ (count : Nat) (last : Response),
      Call.run Response.call (List.replicate count chunkSize) (response, peer) =
        (last, step.peer) ∧
      ∀ reached fault, step.outcome = .ok (reached, fault) → reached = last := by
  induction hrun with
  | @full response peer hfull =>
      refine ⟨0, response, rfl, ?_⟩
      intro reached fault hok
      simp only [Except.ok.injEq, Prod.mk.injEq] at hok
      exact hok.1.symm
  | @ended response peer after hfree hreceive =>
      have hcall := Response.call_of_ok hfree hreceive
      have hsame : response.append [] = response := by simp [Response.append]
      refine ⟨1, response, ?_, ?_⟩
      · rw [List.replicate_one, Call.run_cons, hcall, hsame]
        rfl
      · intro reached fault hok
        simp only [Except.ok.injEq, Prod.mk.injEq] at hok
        exact hok.1.symm
  | @noted response peer after fault hfree hreceive hsystem =>
      refine ⟨1, response, ?_, ?_⟩
      · rw [List.replicate_one, Call.run_cons,
          Response.call_of_error hfree hreceive]
        rfl
      · intro reached fault hok
        simp only [Except.ok.injEq, Prod.mk.injEq] at hok
        exact hok.1.symm
  | @escaped response peer after fault hfree hreceive hsystem =>
      refine ⟨1, response, ?_, ?_⟩
      · rw [List.replicate_one, Call.run_cons,
          Response.call_of_error hfree hreceive]
        rfl
      · intro reached fault hok
        simp at hok
  | delivered hfree hreceive hoctets hnext ih =>
      obtain ⟨count, last, hcalls, hlast⟩ := ih
      refine ⟨count + 1, last, ?_, hlast⟩
      rw [List.replicate_succ, Call.run_cons,
        Response.call_of_ok hfree hreceive]
      exact hcalls

/-! ## No octet is lost -/

/-- What a call does to a buffer of a capacity, when the octets that were received so far and those that
are still to come are `all` octets. -/
structure Call.IsFaithful (made : Call Response) (capacity : Nat) (all : Octets)
    (before : Response) (peer : Peer) (chunkSize : Int) : Prop where
  capacity_eq : made.buffer.capacity = capacity
  received_le : made.buffer.received ≤ capacity
  isFull_iff : made.buffer.isFull = true ↔ made.buffer.received = capacity
  view_inside : ∀ room answer, .received room answer ∈ made.events →
    before.received + room ≤ capacity
  octets_kept : before.octets <+: made.buffer.octets
  octets_conserved : made.buffer.octets ++ made.peer.pending = all
  received_eq : ∀ count, made.result = .ok count →
    made.buffer.received = before.received + count
  buffer_eq_of_error : ∀ fault, made.result = .error fault → made.buffer = before
  eq_of_full : before.received = capacity → made = ⟨.ok 0, [], before, peer⟩
  events_of_free : before.received ≠ capacity →
    ∃ answer, made.events = [.received (before.room chunkSize) answer]
  result_eq_zero_iff : 1 ≤ chunkSize →
    (made.result = .ok 0 ↔ before.received = capacity ∨ peer.AtEnd)

theorem Response.isFull_iff {response : Response}
    (hreceived : response.received ≤ response.capacity) :
    response.isFull = true ↔ response.received = response.capacity := by
  unfold isFull free
  rw [beq_iff_eq]
  omega

theorem Response.call_isFaithful {response : Response}
    (hreceived : response.received ≤ response.capacity) (chunkSize : Int)
    (peer : Peer) :
    (response.call chunkSize peer).IsFaithful response.capacity
      (response.octets ++ peer.pending) response peer chunkSize := by
  have hcall := response.call_calling chunkSize peer
  have hafter := hcall.received_le hreceived
  have hfull := isFull_iff hreceived
  constructor
  · exact hcall.capacity_eq
  · rw [← hcall.capacity_eq]
    exact hafter
  · rw [isFull_iff hafter, hcall.capacity_eq]
  · intro room answer hmem
    by_cases hnow : response.isFull = true
    · simp [call_of_full hnow] at hmem
    · obtain ⟨other, hevents⟩ := hcall.events_of_free (by simpa using hnow)
      rw [hevents, List.mem_singleton, Event.received.injEq] at hmem
      have hinside := response.room_le_free chunkSize
      unfold free at hinside
      omega
  · exact hcall.octets_kept
  · exact hcall.octets_conserved
  · intro count
    exact hcall.received_eq
  · intro fault
    exact hcall.buffer_eq_of_error
  · intro hnow
    exact call_of_full (hfull.mpr hnow) chunkSize peer
  · intro hnow
    apply hcall.events_of_free
    rw [← Bool.not_eq_true, hfull]
    exact hnow
  · intro hchunk
    rw [hcall.result_eq_zero_iff hchunk, hfull]

/-- From an empty buffer on and through calls of any chunk sizes, the next call keeps to the free cells,
keeps every received octet in its place, and adds what comes next; there is nothing more to come for a
positive chunk size exactly if the buffer is full or the stream ends. -/
theorem Response.run_call_isFaithful [Memory] (capacity : Nat) (peer : Peer)
    (chunkSizes : List Int) (chunkSize : Int) :
    let before := Call.run Response.call chunkSizes (⟨capacity, []⟩, peer)
    let made := before.1.call chunkSize before.2
    let cells := Call.run Storage.call chunkSizes (.blank capacity, peer)
    let inPlace := cells.1.call chunkSize cells.2
    (∀ start, Response.ofCapacity capacity = .ok start →
      start = ⟨capacity, []⟩) ∧
    made.IsFaithful capacity peer.pending before.1 before.2 chunkSize ∧
    inPlace.Agrees made ∧
    inPlace.buffer.cells.take before.1.received = before.1.octets := by
  intro before made cells inPlace
  have hstart : Response.received ⟨capacity, []⟩ ≤ capacity := Nat.zero_le _
  have hkept : Response.Kept (⟨capacity, []⟩, peer) before :=
    Response.run_kept chunkSizes peer hstart
  have hfaithful :=
    Response.call_isFaithful hkept.received_le chunkSize before.2
  rw [hkept.capacity_eq, hkept.octets_conserved, List.nil_append] at hfaithful
  have hcells := (Storage.holds_blank capacity).run chunkSizes peer
  have hpeer : cells.2 = before.2 := hcells.2
  have hagrees : inPlace.Agrees made := by
    change (cells.1.call chunkSize cells.2).Agrees made
    rw [hpeer]
    exact hcells.1.call_agrees chunkSize before.2
  refine ⟨?_, hfaithful, hagrees, ?_⟩
  · intro start hbuffer
    exact (Response.eq_of_ofCapacity hbuffer).2
  · exact hagrees.holds.take_of_prefix hfaithful.octets_kept

end RawPost
