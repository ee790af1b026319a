import Household.Resolution.Resolve

/-! # Layers in service

The layers that answer requests at the moment. Who took a snapshot keeps it when other layers take
over.
-/

set_option autoImplicit false

namespace Household

structure Service where
  layers : Layers

namespace Service

def empty : Service := ⟨.empty⟩

def replace (_ : Service) (layers : Layers) : Service := ⟨layers⟩

def snapshot (s : Service) : Layers := s.layers

def resolve (s : Service) (r : Request) : Profile := s.layers.resolve r

def countText (n : String × Nat) : String := n.1 ++ ": " ++ toString n.2

def text (s : Service) : String :=
  let counts := s.layers.summary.counts.map countText
  "SharedStore \x7b summary: StoreSummary \x7b " ++ ", ".intercalate counts ++ " \x7d \x7d"

theorem snapshot_replace (s : Service) (layers : Layers) : (s.replace layers).snapshot = layers :=
  rfl

end Service

end Household
