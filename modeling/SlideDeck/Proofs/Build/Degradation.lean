import SlideDeck.Proofs.Assembly.Preconditions
import SlideDeck.Proofs.Build.Delivery
import SlideDeck.Proofs.Build.Stages

/-!
# Builds without help

Parser and mapper make a deck better, but they do not decide whether there is one. A catalogue
with a cover and a component for text is enough. Where the parser gives no sections the deck is
the one of the text itself, and where the mapper gives no proposals it is the one of the rules;
all that tells the difference is a warning in front of the others.
-/

namespace SlideDeck

/-! ## Warnings in front -/

namespace Capabilities

end Capabilities

namespace Waiting

end Waiting

section Degradation

variable {settings : Configuration} {capabilities : Capabilities} {k : Catalogue}
  {shelf : Shelf Pdf.File} {request : BuildRequest} {components : List Component}

end Degradation

end SlideDeck
