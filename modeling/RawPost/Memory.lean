/-!
# Memory

A response buffer is taken from memory at once, and so is a field that a message template pads.  An amount
of memory has to have an index and has to be there; the two limits are the same for all amounts.  What is
in memory already is not asked for again.

How much is there depends on the machine.  What is said of a program holds whatever the amount is, as long as
there is an index for it.
-/

namespace RawPost

/-- The first amount that has no index. -/
def Memory.indexLimit : Nat := 0x8000000000000000

/-- The memory that a process is granted at once. -/
class Memory where
  /-- The first amount that is not there. -/
  limit : Nat
  limit_le_indexLimit : limit ≤ Memory.indexLimit

/-- A process that runs by itself is granted less than 64 gibibytes. -/
instance Memory.standard : Memory where
  limit := 0x1000000000
  limit_le_indexLimit := by decide

end RawPost
