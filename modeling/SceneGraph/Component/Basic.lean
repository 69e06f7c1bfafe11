import SceneGraph.Component.TypeId
import SceneGraph.Geometry.Transform
import SceneGraph.Json.Basic
import SceneGraph.Binary

/-!
Components: the values that entities carry. Every value has a type, the type has a name, and the
hash of the name is the slot that the value takes. Types with one name share a slot, also when
they are different types.
-/
namespace SceneGraph

/-- A handle to one object of a world. -/
structure Entity where
  id : Nat
deriving DecidableEq, Repr

def Entity.display (entity : Entity) : String := "Entity(" ++ toString entity.id ++ ")"

/-- The pace at which time passes for an entity. -/
structure TimeScale where
  scale : Float32
deriving DecidableEq, Repr

namespace TimeScale

def realTime : TimeScale := ⟨1.0⟩

def apply (timeScale : TimeScale) (seconds : Float32) : Float32 := timeScale.scale * seconds

end TimeScale

/-- A component type that an application adds, told apart by its tag. -/
structure CustomType where
  tag : String
  name : String
deriving DecidableEq, Repr

inductive ComponentType where
  | transform
  | timeScale
  | name
  | parent
  | children
  | custom (type : CustomType)
deriving DecidableEq, Repr

namespace ComponentType

def typeName : ComponentType → String
  | transform => "Transform"
  | timeScale => "TimeScale"
  | name => "Name"
  | parent => "Parent"
  | children => "Children"
  | custom type => type.name

def id (type : ComponentType) : TypeId := TypeId.ofName type.typeName

end ComponentType

/-- A component value. The content of an application's own component is its JSON form, or the
reason why it has none. -/
inductive Component where
  | transform (value : Transform)
  | timeScale (value : TimeScale)
  | name (value : String)
  | parent (value : Entity)
  | children (value : List Entity)
  | custom (type : CustomType) (content : Except String Json)

namespace Component

def type : Component → ComponentType
  | transform _ => .transform
  | timeScale _ => .timeScale
  | name _ => .name
  | parent _ => .parent
  | children _ => .children
  | custom type _ => .custom type

def typeName (component : Component) : String := component.type.typeName

def id (component : Component) : TypeId := component.type.id

def name? : Component → Option String
  | name value => some value
  | _ => none

def parent? : Component → Option Entity
  | parent value => some value
  | _ => none

def children? : Component → Option (List Entity)
  | children value => some value
  | _ => none

/-- The fields of the value in declaration order, with `number` for numbers. -/
def fields (number : Float32 → Json) : Component → Except String Json
  | transform value =>
      .ok (.object [("position", vector value.position), ("rotation", vector value.rotation),
        ("scale", vector value.scale)])
  | timeScale value => .ok (.object [("scale", number value.scale)])
  | name value => .ok (.object [("name", .string value)])
  | parent value => .ok (.object [("parent", .natural value.id)])
  | children value =>
      .ok (.object [("children", .array (value.map fun child => .natural child.id))])
  | custom _ content => content
where
  vector (value : Vec3) : Json := .array [number value.x, number value.y, number value.z]

/-- Numbers as doubles, or null where they are not finite. -/
def widened (value : Float32) : Json :=
  if value.isFinite then .number (.double (Binary.widen value)) else .null

/-- The value as part of a JSON document: numbers are widened to doubles. -/
def toJson (component : Component) : Except String Json := component.fields widened

/-- The value as a document of its own: numbers stay singles. -/
def toDocument (component : Component) : Except String Json :=
  component.fields fun value => .number (.single value)

end Component
end SceneGraph
