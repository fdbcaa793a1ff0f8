/-!
# Numbers of formulas

The formulas of resampling, scanning and the Fresnel zone use only ordered field operations. They
are written for any type with these, and computed on doubles.
-/

namespace Sightline

instance instNatCastFloat : NatCast Float := ⟨Float.ofNat⟩

end Sightline
