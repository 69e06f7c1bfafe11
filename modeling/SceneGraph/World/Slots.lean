import SceneGraph.Component.Stamp

/-!
The components of one entity: a table from slots to values. It is kept in the order of the slots'
hashes, so that tables with the same content are equal however they were filled.
-/
namespace SceneGraph

structure Slots where
  components : List Component

namespace Slots

def empty : Slots := ⟨[]⟩

instance : Inhabited Slots := ⟨empty⟩

/-- Puts a value before the slots of larger hash, in the place of one with the same. -/
def place (component : Component) : List Component → List Component
  | [] => [component]
  | first :: rest =>
      if component.id.hash < first.id.hash then component :: first :: rest
      else if first.id = component.id then component :: rest
      else first :: place component rest

def insert (slots : Slots) (component : Component) : Slots := ⟨place component slots.components⟩

def ofStamp (stamp : Stamp) : Slots := stamp.components.foldl insert empty

def find? (slots : Slots) (id : TypeId) : Option Component :=
  slots.components.find? fun component => component.id = id

def has (slots : Slots) (type : ComponentType) : Bool := (slots.find? type.id).isSome

/-- The value of a type; nothing if its slot holds a value of another type. -/
def get? (slots : Slots) (type : ComponentType) : Option Component :=
  (slots.find? type.id).filter fun component => component.type = type

def size (slots : Slots) : Nat := slots.components.length

/-- Puts a value behind those whose type names are not larger. -/
def placeByName (component : Component) : List Component → List Component
  | [] => [component]
  | first :: rest =>
      if component.typeName < first.typeName then component :: first :: rest
      else first :: placeByName component rest

/-- Values in the order of their type names; the bytes of the names decide. -/
def sortByName : List Component → List Component
  | [] => []
  | first :: rest => placeByName first (sortByName rest)

def byName (slots : Slots) : List Component := sortByName slots.components

end Slots
end SceneGraph
