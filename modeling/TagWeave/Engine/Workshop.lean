import TagWeave.Engine.Run

/-! Renderers share registries. A renderer knows its registry by number and has a budget of its own,
so a copy of a renderer shares the registry and nothing else. -/
namespace TagWeave

/-- All registries in use, by number. -/
structure Workshop where
  registries : List Registry

structure Renderer where
  registry : Nat
  budget : Nat
  deriving DecidableEq, Repr

namespace Workshop

def empty : Workshop := ⟨[]⟩

/-- A new renderer with a registry of its own. -/
def newRenderer (workshop : Workshop) (registry : Registry) : Renderer × Workshop :=
  (⟨workshop.registries.length, defaultBudget⟩, ⟨workshop.registries ++ [registry]⟩)

def registryOf (workshop : Workshop) (renderer : Renderer) : Registry :=
  workshop.registries[renderer.registry]?.getD .empty

private def change (workshop : Workshop) (renderer : Renderer) (registry : Registry) : Workshop :=
  ⟨workshop.registries.set renderer.registry registry⟩

/-- Register a function for a renderer and all that share its registry. -/
def addTag (workshop : Workshop) (renderer : Renderer) (name : Text) (function : FunctionRef) :
    Workshop :=
  workshop.change renderer ((workshop.registryOf renderer).add name function)

def removeTag (workshop : Workshop) (renderer : Renderer) (name : Text) : Bool × Workshop :=
  let registry := workshop.registryOf renderer
  (registry.contains name, workshop.change renderer (registry.remove name))

def run (workshop : Workshop) (functions : Functions) (renderer : Renderer) (draws : Draws)
    (text : Text) (store : Store) : Report × Store :=
  Scope.run ⟨functions, workshop.registryOf renderer⟩ renderer.budget draws text store

def call? (workshop : Workshop) (functions : Functions) (renderer : Renderer) (draw : Draw)
    (name payload : Text) (store : Store) : Option (Text × Store) :=
  ((workshop.registryOf renderer).get? name).map fun function =>
    functions function draw payload store

end Workshop

end TagWeave
