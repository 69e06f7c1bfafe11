import SceneGraph.Component.Basic
import SceneGraph.Json.Decode

/-!
Component values from JSON text. Each type reads what it writes as a document of its own; records
may also be given as the list of their fields.
-/
namespace SceneGraph
open SceneGraph.Json

def Entity.reader : Reader Entity := naturalReader.map Entity.mk

def TypeId.reader : Reader TypeId := naturalReader.map fun hash => ⟨hash.toUInt64⟩

def Vec3.reader : Reader Vec3 :=
  (tupleReader singleReader 3).map fun axes => ⟨axes[0], axes[1], axes[2]⟩

def fieldReader {α : Type} (name : String) (item : Reader α) : Reader α :=
  (recordReader #v[name] item).map fun values => values[0]

/-- Values of a type. An application's own component is any JSON value. -/
def Component.reader : ComponentType → Reader Component
  | .transform =>
      (recordReader #v["position", "rotation", "scale"] Vec3.reader).map fun vectors =>
        .transform ⟨vectors[0], vectors[1], vectors[2]⟩
  | .timeScale => (fieldReader "scale" singleReader).map fun scale => .timeScale ⟨scale⟩
  | .name => (fieldReader "name" stringReader).map .name
  | .parent => (fieldReader "parent" Entity.reader).map .parent
  | .children => (fieldReader "children" (listReader Entity.reader)).map .children
  | .custom type => Reader.map (Json.value strict nestingLimit) fun content =>
      .custom type (.ok content)

def Component.ofText (type : ComponentType) (text : String) : Except ParseError Component :=
  readAll (Component.reader type) text

def Entity.ofText (text : String) : Except ParseError Entity := readAll Entity.reader text

def TypeId.ofText (text : String) : Except ParseError TypeId := readAll TypeId.reader text

end SceneGraph
