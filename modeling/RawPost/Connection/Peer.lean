import RawPost.Connection.Event

/-!
# Peers

A peer is all that an exchange can meet outside itself, the resolver and the socket, given by what each
call will answer.  Opening, resolving, connecting and closing answer the same every time; setting a
timeout, sending and receiving use up one answer for each call.

A send answer is how many octets are accepted at most.  The octets to be received come in chunks: a chunk
that is larger than the room of a call is delivered in parts, and an empty one is the end of the stream.
When the answers have run out, timeouts are accepted, sends take all they are offered, and the stream has
ended.
-/

namespace RawPost

structure Peer where
  opening : Except Fault Unit := .ok ()
  resolution : Except Fault String := .ok "192.0.2.1"
  connecting : Except Fault Unit := .ok ()
  closing : Except Fault Unit := .ok ()
  timeouts : List (Except Fault Unit) := []
  sends : List (Except Fault Nat) := []
  incoming : List (Except Fault Octets) := []

namespace Peer

def setTimeout (peer : Peer) : Except Fault Unit × Peer :=
  match peer.timeouts with
  | [] => (.ok (), peer)
  | answer :: rest => (answer, { peer with timeouts := rest })

def send (peer : Peer) (offered : Octets) : Except Fault Nat × Peer :=
  match peer.sends with
  | [] => (.ok offered.length, peer)
  | answer :: rest => (answer.map (min · offered.length), { peer with sends := rest })

/-- The answers that remain when the first `room` octets of a chunk have been delivered. -/
def leftover (room : Nat) (chunk : Octets) (rest : List (Except Fault Octets)) :
    List (Except Fault Octets) :=
  if chunk.length ≤ room then rest else .ok (chunk.drop room) :: rest

def receive (peer : Peer) (room : Nat) : Except Fault Octets × Peer :=
  match peer.incoming with
  | [] => (.ok [], peer)
  | .error fault :: rest => (.error fault, { peer with incoming := rest })
  | .ok chunk :: rest => (.ok (chunk.take room), { peer with incoming := leftover room chunk rest })

end Peer

end RawPost
