/-!
# Aborts

What ends an indexer for good. An error ends a piece of work and leaves the indexer going; an abort
does not.
-/

set_option autoImplicit false

namespace ChainIndex

inductive Abort where
  /-- A height, or a number of heights, does not fit its word. -/
  | heightOverflow
  /-- There is no time between two ticks. -/
  | zeroPeriod
  /-- More brackets are open than a word counts. -/
  | depthOverflow
  /-- More brackets were closed unopened than a word counts. -/
  | depthUnderflow
  deriving DecidableEq

def Abort.message : Abort → String
  | heightOverflow | depthOverflow => "attempt to add with overflow"
  | depthUnderflow => "attempt to subtract with overflow"
  | zeroPeriod => "`period` must be non-zero."

end ChainIndex
