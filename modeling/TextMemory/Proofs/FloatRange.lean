import TextMemory.Proofs.Binary64
import TextMemory.Proofs.FloatOrder

/-!
# Values that are numbers

A finite value stands between the two infinite ones. A magnitude makes a number, and a number keeps
being one when its sign changes and when it is multiplied or divided by a finite one.
-/
namespace TextMemory.FloatOrder

open Float.Model Float.Model.UnpackedFloat Binary64

section

variable {x y : Float}

end
end TextMemory.FloatOrder
