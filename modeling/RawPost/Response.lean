import RawPost.Connection.Action
import RawPost.Memory

/-!
# Responses

A response is a buffer of fixed capacity that is filled from the front and never parsed.  Each read offers
the socket a view of the free tail.  A view is given by its end, counted from the octets received so far;
an end before the beginning of the buffer counts from the end of the buffer, as a position in a cyclic
list would, and a view whose end is before its beginning is empty.
-/

namespace RawPost

structure Response where
  capacity : Nat
  octets : Octets
  deriving DecidableEq, Repr

namespace Response

inductive Refusal where
  | notPositive
  | notAddressable
  | notAllocatable
  deriving DecidableEq, Repr

def Refusal.message : Refusal → String
  | .notPositive => "capacity must be positive"
  | .notAddressable => "cannot fit 'int' into an index-sized integer"
  | .notAllocatable => ""

def ofCapacity [Memory] (capacity : Int) : Except Refusal Response :=
  if capacity ≤ 0 then .error .notPositive
  else if Memory.indexLimit ≤ capacity then .error .notAddressable
  else if Memory.limit ≤ capacity then .error .notAllocatable
  else .ok ⟨capacity.toNat, []⟩

def received (response : Response) : Nat :=
  response.octets.length

def free (response : Response) : Nat :=
  response.capacity - response.received

def isFull (response : Response) : Bool :=
  response.free == 0

/-- The length of the view that a chunk size gives. -/
def room (response : Response) (chunkSize : Int) : Nat :=
  if 0 ≤ chunkSize then
    min response.free chunkSize.toNat
  else if response.received + chunkSize < 0 then
    (response.capacity + chunkSize).toNat
  else
    0

def append (response : Response) (octets : Octets) : Response :=
  { response with octets := response.octets ++ octets }

/-- Asks the socket for the next octets; without free space there is nothing to ask for. -/
def read (response : Response) (chunkSize : Int) : Action Fault Octets :=
  if response.isFull then
    Action.done []
  else
    Action.receiveSome (response.room chunkSize)

theorem free_append_lt {response : Response} {octets : Octets}
    (hfull : response.isFull = false) (hoctets : octets ≠ []) :
    (response.append octets).free < response.free := by
  have hlength : 0 < octets.length := List.length_pos_iff.mpr hoctets
  simp only [isFull, free, received, append, beq_eq_false_iff_ne, List.length_append] at hfull ⊢
  omega

end Response

end RawPost
