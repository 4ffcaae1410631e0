import RawPost.Proofs.Interleaving

/-!
# Arguments behind a separator

What stands behind a separator is taken as it is, whatever it looks like.  The first round meets operands
before the separator, so it leaves the separator in its place, and the second round finds the same operands
protected again.  There the separator belongs to the slot before it, which drops it; the slots behind it get
the texts themselves.
-/

namespace RawPost.CommandLine

open Settings

variable {body : String} {headers : List String}

/-! ## The first round -/

namespace Filling

end Filling

end RawPost.CommandLine

namespace RawPost.Program

open CommandLine

end RawPost.Program
