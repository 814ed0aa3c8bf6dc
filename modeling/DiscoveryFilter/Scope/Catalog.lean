import DiscoveryFilter.Registry

/-!
# Plugin catalogs

A `Catalog` is everything that a scope can be put together from.
-/

namespace DiscoveryFilter

/-- The registries of the three kinds of plugins. -/
structure Catalog (α ρ : Type) where
  acceptors : AcceptorRegistry
  approaches : Registry .approach (Factory α)
  reporters : Registry .reporter (Factory ρ)

/-- The built-in acceptors and nothing else. -/
def Catalog.standard {α ρ : Type} : Catalog α ρ :=
  ⟨AcceptorRegistry.standard, Registry.empty, Registry.empty⟩

end DiscoveryFilter
