import SceneGraph.World.Slots

/-!
Worlds: entities and their components. Entities are numbered from one in the order of their
creation and are never removed, so a world is the list of its entities' slots.
-/
namespace SceneGraph

inductive WorldError where
  | entityNotFound (entity : Entity)
  | unserialisable (entity : Entity) (component : String) (reason : String)
deriving DecidableEq, Repr

def WorldError.message : WorldError → String
  | .entityNotFound entity => entity.display ++ " not found"
  | .unserialisable entity component reason =>
      "failed to serialise component '" ++ component ++ "' of " ++ entity.display ++ ": " ++ reason

structure World where
  rows : Array Slots

namespace World

def empty : World := ⟨#[]⟩

instance : Inhabited World := ⟨empty⟩

def size (world : World) : Nat := world.rows.size

def next (world : World) : Entity := ⟨world.rows.size + 1⟩

def slots? (world : World) (entity : Entity) : Option Slots :=
  if entity.id = 0 then none else world.rows[entity.id - 1]?

def contains (world : World) (entity : Entity) : Bool := (world.slots? entity).isSome

/-- All entities in the order of their creation. -/
def entities (world : World) : List Entity := (List.range world.rows.size).map fun i => ⟨i + 1⟩

def add (world : World) (slots : Slots) : Entity × World := (world.next, ⟨world.rows.push slots⟩)

def create (world : World) : Entity × World := world.add .empty

def spawn (world : World) (stamp : Stamp) : Entity × World := world.add (.ofStamp stamp)

/-- Gives an entity a component, in the place of the one in its slot. -/
def assign (world : World) (entity : Entity) (component : Component) : Except WorldError World :=
  if world.contains entity then
    .ok ⟨world.rows.modify (entity.id - 1) fun slots => slots.insert component⟩
  else .error (.entityNotFound entity)

/-- Whether the slot of a type is filled, also by a value of another type. -/
def has (world : World) (entity : Entity) (type : ComponentType) : Bool :=
  (world.slots? entity).any fun slots => slots.has type

/-- The component of a type; nothing if its slot holds a value of another type. -/
def get? (world : World) (entity : Entity) (type : ComponentType) : Option Component :=
  (world.slots? entity).bind fun slots => slots.get? type

def childrenOf (world : World) (entity : Entity) : List Entity :=
  ((world.get? entity .children).bind Component.children?).getD []

def componentCount (world : World) (entity : Entity) : Nat :=
  ((world.slots? entity).map Slots.size).getD 0

def components (world : World) (entity : Entity) : Except WorldError (List Component) :=
  match world.slots? entity with
  | some slots => .ok slots.byName
  | none => .error (.entityNotFound entity)

def componentNames (world : World) (entity : Entity) : Except WorldError (List String) :=
  (world.components entity).map fun components => components.map Component.typeName

end World
end SceneGraph
