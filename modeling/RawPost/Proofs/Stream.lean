import RawPost.Connection.Peer
import RawPost.Response
import Mathlib.Tactic

/-!
# The stream of a peer

What a peer sends is one stream of octets, followed by its end or by a fault; how the stream is cut into
chunks is not part of it.  A call with room for something takes a beginning of the stream, and leaves what
comes after the stream alone as long as the stream is not exhausted.
-/

namespace RawPost

namespace Peer

/-- The octets before the first empty chunk or fault. -/
def streamOf : List (Except Fault Octets) → Octets
  | .ok (octet :: octets) :: rest => octet :: octets ++ streamOf rest
  | _ => []

/-- The answers from the first empty chunk or fault on. -/
def answersAfter : List (Except Fault Octets) → List (Except Fault Octets)
  | .ok (_ :: _) :: rest => answersAfter rest
  | answers => answers

def stream (peer : Peer) : Octets :=
  streamOf peer.incoming

def afterStream (peer : Peer) : List (Except Fault Octets) :=
  answersAfter peer.incoming

/-- The fault that cuts the stream off; without one the stream ends by itself. -/
def ending (peer : Peer) : Option Fault :=
  match peer.afterStream with
  | .error fault :: _ => some fault
  | _ => none

theorem streamOf_cons {chunk : Octets} (hchunk : chunk ≠ [])
    (rest : List (Except Fault Octets)) :
    streamOf (.ok chunk :: rest) = chunk ++ streamOf rest := by
  cases chunk with
  | nil => contradiction
  | cons octet octets => rfl

theorem answersAfter_cons {chunk : Octets} (hchunk : chunk ≠ [])
    (rest : List (Except Fault Octets)) :
    answersAfter (.ok chunk :: rest) = answersAfter rest := by
  cases chunk with
  | nil => contradiction
  | cons octet octets => rfl

theorem stream_of_leftover {room : Nat} {chunk : Octets}
    (hchunk : chunk ≠ []) (rest : List (Except Fault Octets)) :
    chunk.take room ++ streamOf (leftover room chunk rest) =
      streamOf (.ok chunk :: rest) := by
  rw [streamOf_cons hchunk]
  unfold leftover
  by_cases hfits : chunk.length ≤ room
  · rw [if_pos hfits, List.take_of_length_le hfits]
  · have hrest : chunk.drop room ≠ [] := by
      intro hnil
      exact hfits (List.drop_eq_nil_iff.mp hnil)
    rw [if_neg hfits, streamOf_cons hrest, ← List.append_assoc,
      List.take_append_drop]

theorem answersAfter_leftover {room : Nat} {chunk : Octets}
    (hchunk : chunk ≠ []) (rest : List (Except Fault Octets)) :
    answersAfter (leftover room chunk rest) =
      answersAfter (.ok chunk :: rest) := by
  rw [answersAfter_cons hchunk]
  unfold leftover
  by_cases hfits : chunk.length ≤ room
  · rw [if_pos hfits]
  · have hrest : chunk.drop room ≠ [] := by
      intro hnil
      exact hfits (List.drop_eq_nil_iff.mp hnil)
    rw [if_neg hfits, answersAfter_cons hrest]

variable {peer after : Peer} {room : Nat}

theorem of_receive_error {fault : Fault}
    (hreceive : peer.receive room = (.error fault, after)) :
    peer.stream = [] ∧ peer.ending = some fault := by
  unfold receive at hreceive
  split at hreceive
  next => simp at hreceive
  next other rest hincoming =>
    simp only [Prod.mk.injEq, Except.error.injEq] at hreceive
    simp [stream, ending, afterStream, streamOf, answersAfter, hincoming,
      hreceive.1]
  next => simp at hreceive

theorem of_receive_nil (hroom : 0 < room)
    (hreceive : peer.receive room = (.ok [], after)) :
    peer.stream = [] ∧ peer.ending = none := by
  unfold receive at hreceive
  split at hreceive
  next hincoming =>
    simp [stream, ending, afterStream, streamOf, answersAfter, hincoming]
  next => simp at hreceive
  next chunk rest hincoming =>
    simp only [Prod.mk.injEq, Except.ok.injEq] at hreceive
    have hchunk : chunk = [] := by
      rcases List.take_eq_nil_iff.mp hreceive.1 with hzero | hnil
      · omega
      · exact hnil
    subst chunk
    simp [stream, ending, afterStream, streamOf, answersAfter, hincoming]

theorem of_receive_ok {octets : Octets} (hoctets : octets ≠ [])
    (hreceive : peer.receive room = (.ok octets, after)) :
    octets.length ≤ room ∧ peer.stream = octets ++ after.stream ∧
      after.afterStream = peer.afterStream := by
  unfold receive at hreceive
  split at hreceive
  next =>
    simp only [Prod.mk.injEq, Except.ok.injEq] at hreceive
    exact absurd hreceive.1.symm hoctets
  next => simp at hreceive
  next chunk rest hincoming =>
    simp only [Prod.mk.injEq, Except.ok.injEq] at hreceive
    obtain ⟨rfl, rfl⟩ := hreceive
    have hchunk : chunk ≠ [] := by
      intro hnil
      simp [hnil] at hoctets
    refine ⟨?_, ?_, ?_⟩
    · exact List.length_take_le room chunk
    · simp only [stream, hincoming]
      exact (stream_of_leftover hchunk rest).symm
    · simp only [afterStream, hincoming]
      exact answersAfter_leftover hchunk rest

theorem ending_eq_of_afterStream
    (hafter : after.afterStream = peer.afterStream) :
    after.ending = peer.ending := by
  simp only [ending, hafter]

end Peer

namespace Response

theorem isFull_eq_false_iff {response : Response} :
    response.isFull = false ↔ 0 < response.free := by
  simp only [isFull, beq_eq_false_iff_ne]
  omega

theorem free_append (response : Response) (octets : Octets) :
    (response.append octets).free = response.free - octets.length := by
  simp only [free, received, append, List.length_append]
  omega

/-- A positive chunk size keeps the view inside the free space. -/
theorem room_eq {chunkSize : Int} (hchunk : 1 ≤ chunkSize)
    (response : Response) :
    response.room chunkSize = min response.free chunkSize.toNat := by
  unfold room
  rw [if_pos (by omega)]

theorem room_pos {response : Response} {chunkSize : Int}
    (hchunk : 1 ≤ chunkSize) (hfull : response.isFull = false) :
    0 < response.room chunkSize := by
  have hfree : 0 < response.free := isFull_eq_false_iff.mp hfull
  rw [room_eq hchunk]
  omega

/-- There is a buffer of a positive capacity exactly below the limit of memory, and it is empty. -/
theorem ofCapacity_eq_ok [Memory] {capacity : Int} (hpositive : 1 ≤ capacity)
    (hlimit : capacity < Memory.limit) :
    ofCapacity capacity = .ok ⟨capacity.toNat, []⟩ := by
  have hindex := Memory.limit_le_indexLimit
  unfold ofCapacity
  rw [if_neg (by omega), if_neg (by omega), if_neg (by omega)]

theorem eq_of_ofCapacity [Memory] {capacity : Int} {response : Response}
    (hbuffer : ofCapacity capacity = .ok response) :
    0 < capacity ∧ response = ⟨capacity.toNat, []⟩ := by
  unfold ofCapacity at hbuffer
  by_cases hpositive : capacity ≤ 0
  · simp [hpositive] at hbuffer
  · by_cases hindex : (Memory.indexLimit : Int) ≤ capacity
    · simp [hpositive, hindex] at hbuffer
    · by_cases hlimit : (Memory.limit : Int) ≤ capacity
      · simp [hpositive, hindex, hlimit] at hbuffer
      · simp only [if_neg hpositive, if_neg hindex, if_neg hlimit,
          Except.ok.injEq] at hbuffer
        exact ⟨Int.not_le.mp hpositive, hbuffer.symm⟩

theorem exists_refusal [Memory] {capacity : Int} (hlimit : (Memory.limit : Int) ≤ capacity) :
    ∃ refusal, ofCapacity capacity = .error refusal := by
  unfold ofCapacity
  by_cases hpositive : capacity ≤ 0
  · exact ⟨.notPositive, if_pos hpositive⟩
  · rw [if_neg hpositive]
    by_cases hindex : (Memory.indexLimit : Int) ≤ capacity
    · exact ⟨.notAddressable, if_pos hindex⟩
    · rw [if_neg hindex, if_pos hlimit]
      exact ⟨.notAllocatable, rfl⟩

end Response

end RawPost
