import SceneGraph.Scene.Constructor
import SceneGraph.Scene.Event
import SceneGraph.Text.Quoted

/-!
The registry of constructors, by the component names that scene documents use.
-/
namespace SceneGraph

structure Registry where
  constructors : Std.TreeMap String Constructor

namespace Registry

def empty : Registry := ⟨∅⟩

instance : Inhabited Registry := ⟨empty⟩

/-- Registers a constructor; one already registered under the name is replaced and reported. -/
def register (registry : Registry) (name : String) (constructor : Constructor) :
    Registry × List Event :=
  (⟨registry.constructors.insert name constructor⟩,
    if registry.constructors.contains name then [.replacedConstructor name] else [])

def defaults : Registry :=
  ⟨(Std.TreeMap.empty.insert "transform" .transform).insert "time_scale" .timeScale⟩

def lookup? (registry : Registry) (name : String) : Option Constructor :=
  registry.constructors[name]?

def contains (registry : Registry) (name : String) : Bool := registry.constructors.contains name

def names (registry : Registry) : List String := registry.constructors.keys

def size (registry : Registry) : Nat := registry.constructors.size

def isEmpty (registry : Registry) : Bool := registry.constructors.isEmpty

def describe (registry : Registry) : String :=
  "ComponentRegistry \x7b constructors: " ++ Text.quotedList registry.names ++ " \x7d"

/-- Makes a component on an entity; false when nothing is registered under the name. -/
def construct (registry : Registry) (world : World) (entity : Entity) (name : String)
    (data : Tree) : World × Except ConstructError Bool :=
  match registry.lookup? name with
  | none => (world, .ok false)
  | some constructor =>
    let (changed, outcome) := constructor.applyToEntity world entity data
    (changed, outcome.map fun _ => true)

/-- Records a component in a node's stamp. An unknown name and refused data are reported and
otherwise ignored. -/
def record (registry : Registry) (node : String) (stamp : Stamp) (name : String) (data : Tree) :
    Stamp × List Event :=
  match registry.lookup? name with
  | none => (stamp, [.unknownComponent node name])
  | some constructor =>
    match constructor.applyToStamp stamp data with
    | (changed, .ok ()) => (changed, [])
    | (changed, .error error) => (changed, [.rejectedComponent node name error])

end Registry
end SceneGraph
