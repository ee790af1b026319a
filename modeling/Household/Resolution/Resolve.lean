import Household.Profile.FromSettings
import Household.Resolution.Merge

/-! # Resolving a request

The profile of the merged settings, with the record of the layers, of failed conditions and of
rejected values.
-/

set_option autoImplicit false

namespace Household

/-- The profile of settings that are already merged; rejections join the given trace. -/
def Profile.ofFragment (f : Fragment) (trace : Trace) : Profile :=
  let read := f.toProfile
  { read.value with trace := { trace with rejections := trace.rejections ++ read.rejected } }

def Layers.resolve (l : Layers) (r : Request) : Profile :=
  let m := l.merge r
  Profile.ofFragment m.fragment m.trace

end Household
