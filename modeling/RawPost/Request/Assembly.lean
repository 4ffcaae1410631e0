import RawPost.Request.Draft

/-!
# Assembly of requests

The octets of a request are laid into a frame whose size is worked out beforehand, part by part.  A part
takes the place of as many octets of the frame as it has itself, and the request is complete when the
last part ends where the frame ends.  A part that cannot be encoded has neither a size nor a place.
-/

namespace RawPost.Request

open Text

/-- A frame that is being filled in from the front: the parts in place, the last one first, and the rest. -/
structure Frame where
  placed : List Octets
  free : Octets
  deriving DecidableEq, Repr

namespace Frame

def blank (size : Nat) : Frame :=
  ⟨[], List.replicate size 0⟩

def filled (frame : Frame) : Octets :=
  frame.placed.reverse.flatten

def position (frame : Frame) : Nat :=
  frame.filled.length

def octets (frame : Frame) : Octets :=
  frame.filled ++ frame.free

def place (frame : Frame) (octets : Octets) : Frame :=
  ⟨octets :: frame.placed, frame.free.drop octets.length⟩

@[simp] theorem filled_place (frame : Frame) (octets : Octets) :
    (frame.place octets).filled = frame.filled ++ octets := by
  simp [filled, place]

end Frame

def encoded (text : CodePoints) : Except Misfit Octets :=
  (encodePoints text).mapError .text

def encodedLength (text : CodePoints) : Except Misfit Nat :=
  (encoded text).map List.length

def Frame.put (frame : Frame) (part : CodePoints) : Except Misfit Frame :=
  (encoded part).map frame.place

def Frame.putAll (frame : Frame) (parts : List CodePoints) : Except Misfit Frame :=
  parts.foldlM Frame.put frame

namespace Draft

def size (draft : Draft) (version : CodePoints) : Except Misfit Nat := do
  let headSize ← encodedLength (← draft.head version)
  let linesSize ← draft.headers.foldlM
    (fun size header => return size + (← encodedLength header) + crlf.length) headSize
  let size := linesSize + crlf.length
  match draft.body with
  | none => return size
  | some body => return size + (← encodedLength body)

def assemble (draft : Draft) (version : CodePoints) : Except Misfit Octets := do
  let size ← draft.size version
  let frame ← (Frame.blank size).putAll (← draft.pieces version)
  if frame.position = size then
    return frame.octets
  else
    .error (.uneven size frame.position)

end Draft

def assemble (request : Request) (version : String) : Except Misfit Octets :=
  request.draft.assemble (codePoints version)

end RawPost.Request
