import RawPost.Response
import Mathlib.Tactic

/-!
# A buffer in place

The octets of a response stand in the first cells of a buffer whose cells are all there from the start.  A
call offers the socket a view of the cells, given by two places; a place below zero counts from the end of
the buffer.  The view begins where the received octets end, and it is exactly as long as the room of the
response, so what is written into it never reaches a cell that holds a received octet.
-/

namespace RawPost

/-- All cells of a buffer, and how many of them are filled. -/
structure Storage where
  cells : Octets
  filled : Nat
  deriving DecidableEq, Repr

namespace Storage

def blank (capacity : Nat) : Storage :=
  ⟨List.replicate capacity 0, 0⟩

/-- A place of the buffer: one below zero counts from its end, and none is outside of it. -/
def place (storage : Storage) (index : Int) : Nat :=
  if index < 0 then (storage.cells.length + index).toNat
  else min index.toNat storage.cells.length

/-- Where the view of a call begins. -/
def viewStart (storage : Storage) : Nat :=
  storage.place storage.filled

/-- Where the view of a call ends; it may end before it begins. -/
def viewStop (storage : Storage) (chunkSize : Int) : Nat :=
  storage.place
    (storage.filled + min (storage.cells.length - storage.filled : Int) chunkSize)

def viewLength (storage : Storage) (chunkSize : Int) : Nat :=
  storage.viewStop chunkSize - storage.viewStart

/-- Puts octets over the cells from the beginning of the view on. -/
def write (storage : Storage) (octets : Octets) : Storage where
  cells := storage.cells.take storage.viewStart ++ octets ++
    storage.cells.drop (storage.viewStart + octets.length)
  filled := storage.filled + octets.length

/-- The cells hold a response: the received octets in front, and behind them all of its free space. -/
structure Holds (storage : Storage) (response : Response) : Prop where
  length_eq : storage.cells.length = response.capacity
  filled_le : storage.filled ≤ storage.cells.length
  octets_eq : storage.cells.take storage.filled = response.octets

theorem holds_blank (capacity : Nat) : (blank capacity).Holds ⟨capacity, []⟩ where
  length_eq := List.length_replicate
  filled_le := Nat.zero_le _
  octets_eq := List.take_zero

variable {storage : Storage} {response : Response}

theorem viewStart_eq (hfilled : storage.filled ≤ storage.cells.length) :
    storage.viewStart = storage.filled := by
  unfold viewStart place
  rw [if_neg (by omega)]
  omega

theorem Holds.received_eq (hholds : storage.Holds response) :
    response.received = storage.filled := by
  have hfilled := hholds.filled_le
  rw [Response.received, ← hholds.octets_eq, List.length_take]
  omega

theorem Holds.received_le (hholds : storage.Holds response) :
    response.received ≤ response.capacity := by
  rw [hholds.received_eq, ← hholds.length_eq]
  exact hholds.filled_le

theorem Holds.take_of_prefix (hholds : storage.Holds response) {earlier : Octets}
    (hearlier : earlier <+: response.octets) :
    storage.cells.take earlier.length = earlier := by
  have hfilled := hholds.received_eq
  have hlength := hearlier.length_le
  unfold Response.received at hfilled
  rw [List.prefix_iff_eq_take, ← hholds.octets_eq, List.take_take,
    Nat.min_eq_left (by omega)] at hearlier
  exact hearlier.symm

/-- A chunk size far enough below zero takes the view past the beginning of the buffer and around to a
place before its end, so that the view ends within the free cells all the same. -/
theorem Holds.viewLength_eq (hholds : storage.Holds response) (chunkSize : Int) :
    storage.viewLength chunkSize = response.room chunkSize := by
  have hfilled := hholds.filled_le
  have hreceived := hholds.received_eq
  have hlength := hholds.length_eq
  unfold viewLength
  rw [viewStart_eq hfilled]
  unfold viewStop place Response.room Response.free
  rw [hreceived, ← hlength]
  by_cases hchunk : 0 ≤ chunkSize
  · rw [if_pos hchunk, if_neg (by omega)]
    omega
  · have hstop : min (storage.cells.length - storage.filled : Int) chunkSize =
        chunkSize := by omega
    rw [if_neg hchunk, hstop]
    by_cases haround : storage.filled + chunkSize < 0
    · rw [if_pos haround, if_pos haround]
      omega
    · rw [if_neg haround, if_neg haround]
      omega

theorem write_cells (hfilled : storage.filled ≤ storage.cells.length)
    (octets : Octets) :
    (storage.write octets).cells =
      storage.cells.take storage.filled ++ octets ++
        storage.cells.drop (storage.filled + octets.length) := by
  unfold write
  rw [viewStart_eq hfilled]

@[simp] theorem write_filled (storage : Storage) (octets : Octets) :
    (storage.write octets).filled = storage.filled + octets.length := rfl

theorem length_front (hfilled : storage.filled ≤ storage.cells.length)
    (octets : Octets) :
    (storage.cells.take storage.filled ++ octets).length =
      (storage.write octets).filled := by
  rw [List.length_append, List.length_take, Nat.min_eq_left hfilled,
    write_filled]

theorem Holds.write {octets : Octets} (hholds : storage.Holds response)
    (hoctets : storage.filled + octets.length ≤ storage.cells.length) :
    (storage.write octets).Holds (response.append octets) := by
  have hcells := write_cells hholds.filled_le octets
  have hfront := length_front hholds.filled_le octets
  have hlength : (storage.write octets).cells.length = storage.cells.length := by
    rw [hcells, List.length_append, hfront, List.length_drop, write_filled]
    omega
  constructor
  · rw [hlength]
    exact hholds.length_eq
  · rw [hlength]
    exact hoctets
  · rw [hcells, ← hfront, List.take_left, hholds.octets_eq]
    rfl

end Storage

end RawPost
