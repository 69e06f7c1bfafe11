import SceneGraph.Scene.Event

/-!
The index of declared names. The first entity recorded under a name keeps it.
-/
namespace SceneGraph

structure EntityIndex where
  entities : Std.TreeMap String Entity

namespace EntityIndex

def empty : EntityIndex := ⟨∅⟩

instance : Inhabited EntityIndex := ⟨empty⟩

def get? (index : EntityIndex) (name : String) : Option Entity := index.entities[name]?

def contains (index : EntityIndex) (name : String) : Bool := index.entities.contains name

def size (index : EntityIndex) : Nat := index.entities.size

def isEmpty (index : EntityIndex) : Bool := index.entities.isEmpty

/-- Names and entities in the order of the names' bytes. -/
def toList (index : EntityIndex) : List (String × Entity) := index.entities.toList

/-- Records an entity unless the name is taken, which is reported. -/
def record (index : EntityIndex) (name : String) (entity : Entity) : EntityIndex × List Event :=
  if index.contains name then (index, [.nameTaken name entity])
  else (⟨index.entities.insert name entity⟩, [])

end EntityIndex
end SceneGraph
