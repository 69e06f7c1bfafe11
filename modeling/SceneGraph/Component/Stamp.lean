import SceneGraph.Component.Basic
import SceneGraph.Text.Quoted

/-!
Stamps: component values recorded before there is an entity, at most one a slot, in the order in
which the slots were first written.
-/
namespace SceneGraph

structure Stamp where
  components : List Component

namespace Stamp

def empty : Stamp := ⟨[]⟩

instance : Inhabited Stamp := ⟨empty⟩

/-- Puts a value in the place of the first one with its slot, or at the end. -/
def record (component : Component) : List Component → List Component
  | [] => [component]
  | first :: rest =>
      if first.id = component.id then component :: rest else first :: record component rest

def set (stamp : Stamp) (component : Component) : Stamp := ⟨record component stamp.components⟩

def ofList (components : List Component) : Stamp := components.foldl set empty

def find? (stamp : Stamp) (id : TypeId) : Option Component :=
  stamp.components.find? fun component => component.id = id

def contains (stamp : Stamp) (id : TypeId) : Bool :=
  stamp.components.any fun component => component.id = id

/-- Whether the slot of a type is filled, also by a value of another type. -/
def has (stamp : Stamp) (type : ComponentType) : Bool := stamp.contains type.id

/-- The value of a type; nothing if its slot holds a value of another type. -/
def get? (stamp : Stamp) (type : ComponentType) : Option Component :=
  (stamp.find? type.id).filter fun component => component.type = type

def name? (stamp : Stamp) : Option String := (stamp.get? .name).bind Component.name?

def names (stamp : Stamp) : List String := stamp.components.map Component.typeName

def size (stamp : Stamp) : Nat := stamp.components.length

def isEmpty (stamp : Stamp) : Bool := stamp.components.isEmpty

def describe (stamp : Stamp) : String :=
  "Stamp \x7b components: [" ++
    ", ".intercalate (stamp.names.map fun name => "ErasedComponent(" ++ Text.quoted name ++ ")") ++
    "] \x7d"

end Stamp
end SceneGraph
