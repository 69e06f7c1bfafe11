import SceneGraph.Scene.Blueprint
import SceneGraph.Scene.EntityIndex

/-!
Instantiation: blueprints become entities of a world. Every entity gets the components of its
stamp, a time scale if the stamp has none, and the list of its children; every child gets its
parent. Named entities can be recorded in an index on the way.
-/
namespace SceneGraph

/-- A world that is being populated, the index of names if one is kept, and what was reported. -/
structure Population where
  world : World
  index : Option EntityIndex
  log : Array Event

abbrev Populate := ExceptT WorldError (StateM Population)

namespace Populate

def report (events : List Event) : Populate Unit :=
  modify fun population => { population with log := population.log ++ events }

def assign (entity : Entity) (component : Component) : Populate Unit := do
  let population ← get
  match population.world.assign entity component with
  | .ok world => set { population with world }
  | .error error => throw error

def spawn (stamp : Stamp) : Populate Entity := do
  let population ← get
  let (entity, world) := population.world.spawn stamp
  set { population with world }
  return entity

/-- Records an entity in the index, if an index is kept and the entity has a name. -/
def record (entity : Entity) (name : Option String) : Populate Unit := do
  let population ← get
  match population.index, name with
  | some index, some name =>
      let (index, events) := index.record name entity
      set { population with index := some index }
      report events
  | _, _ => pure ()

def ensureTimeScale (entity : Entity) : Populate Unit := do
  let population ← get
  if population.world.has entity .timeScale then pure ()
  else assign entity (.timeScale .realTime)

end Populate

namespace Blueprint
open Populate

mutual

/-- Makes the entities of a blueprint, the root first, and returns the root. -/
def instantiate : Blueprint → Populate Entity
  | ⟨stamp, children⟩ => do
      let entity ← spawn stamp
      record entity stamp.name?
      ensureTimeScale entity
      let children ← instantiateChildren entity children
      report [.instantiated entity children.length]
      assign entity (.children children)
      return entity

def instantiateChildren (parent : Entity) : List Blueprint → Populate (List Entity)
  | [] => return []
  | child :: rest => do
      let entity ← instantiate child
      assign entity (.parent parent)
      let entities ← instantiateChildren parent rest
      return entity :: entities

end

def instantiateAll (blueprints : List Blueprint) : Populate (List Entity) :=
  blueprints.mapM instantiate

end Blueprint

namespace World

def instantiate (world : World) (blueprint : Blueprint) :
    Except WorldError Entity × Population :=
  blueprint.instantiate.run.run ⟨world, none, #[]⟩

def instantiateIndexed (world : World) (index : EntityIndex) (blueprint : Blueprint) :
    Except WorldError Entity × Population :=
  blueprint.instantiate.run.run ⟨world, some index, #[]⟩

def instantiateAll (world : World) (blueprints : List Blueprint) :
    Except WorldError (List Entity) × Population :=
  (Blueprint.instantiateAll blueprints).run.run ⟨world, none, #[]⟩

def instantiateAllIndexed (world : World) (index : EntityIndex) (blueprints : List Blueprint) :
    Except WorldError (List Entity) × Population :=
  (Blueprint.instantiateAll blueprints).run.run ⟨world, some index, #[]⟩

end World
end SceneGraph
