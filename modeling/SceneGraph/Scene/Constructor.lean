import SceneGraph.Scene.Error

/-!
Constructors: how declared data becomes a component of an entity or of a stamp. The two built in
read transforms and time scales, and a later write replaces the whole component.
-/
namespace SceneGraph

/-- The two ways to use declared data. Each returns the changed target and the fault, if any. -/
structure Constructor where
  applyToEntity : World → Entity → Tree → World × Except ConstructError Unit
  applyToStamp : Stamp → Tree → Stamp × Except ConstructError Unit

namespace Constructor

/-- A constructor that reads the data and then writes the component, or changes nothing. -/
def ofReader (read : Tree → Except ConstructError Component) : Constructor where
  applyToEntity world entity data :=
    match read data with
    | .error error => (world, .error error)
    | .ok component =>
      match world.assign entity component with
      | .error error => (world, .error (.world error))
      | .ok changed => (changed, .ok ())
  applyToStamp stamp data :=
    match read data with
    | .error error => (stamp, .error error)
    | .ok component => (stamp.set component, .ok ())

end Constructor

def Tree.numberIn (field : String) (tree : Tree) : Except ConstructError Float32 :=
  match tree.float32? with
  | some value => .ok value
  | none => .error (.expectedNumber field tree.shape)

def axesOf (field : String) (items : List Tree) : Except ConstructError (List Float32) :=
  (items.take 3).mapM (Tree.numberIn field)

/-- A vector field. A missing field, a null and the axes that a short sequence lacks take the
default; items after the third are not looked at. -/
def vectorField (fields : OrderedMap Tree) (field : String) (default : Float32) :
    Except ConstructError Vec3 :=
  match fields.get? field with
  | none | some .null => .ok (.splat default)
  | some (.sequence items) =>
      (axesOf field items).map fun axes =>
        ⟨axes[0]?.getD default, axes[1]?.getD default, axes[2]?.getD default⟩
  | some other => .error (.expectedSequence field other.shape)

/-- A transform: null, or a map with position, rotation in turns, and scale. -/
def Transform.ofTree : Tree → Except ConstructError Transform
  | .null => .ok .identity
  | .map fields => do
      let position ← vectorField fields "position" 0.0
      let rotation ← vectorField fields "rotation" 0.0
      let scale ← vectorField fields "scale" 1.0
      return .ofTurns position rotation scale
  | other => .error (.expectedMap other.shape)

/-- A time scale: null, a number, or a map with a number under `scale`. -/
def TimeScale.ofTree : Tree → Except ConstructError TimeScale
  | .null => .ok .realTime
  | .map fields =>
      match fields.get? "scale" with
      | none => .ok .realTime
      | some value => (value.numberIn "scale").map TimeScale.mk
  | .scalar value => ((Tree.scalar value).numberIn "scale").map TimeScale.mk
  | other => .error (.expectedMap other.shape)

namespace Constructor

def transform : Constructor := ofReader fun data => (Transform.ofTree data).map .transform

def timeScale : Constructor := ofReader fun data => (TimeScale.ofTree data).map .timeScale

end Constructor
end SceneGraph
