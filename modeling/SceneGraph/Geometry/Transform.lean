/-!
Placement in space. A transform holds a position, a rotation about each axis in radians and a
scale, in single precision.
-/
namespace SceneGraph

structure Vec3 where
  x : Float32
  y : Float32
  z : Float32
deriving DecidableEq, Repr

namespace Vec3

def splat (value : Float32) : Vec3 := ⟨value, value, value⟩

def zero : Vec3 := splat 0.0

def one : Vec3 := splat 1.0

def scaleBy (vector : Vec3) (factor : Float32) : Vec3 :=
  ⟨vector.x * factor, vector.y * factor, vector.z * factor⟩

def same (first second : Vec3) : Bool :=
  first.x == second.x && first.y == second.y && first.z == second.z

end Vec3

structure Transform where
  position : Vec3
  rotation : Vec3
  scale : Vec3
deriving DecidableEq, Repr

namespace Transform

/-- A full turn in radians, as a single. -/
def tau : Float32 := Float32.ofBits 0x40c90fdb

def identity : Transform := ⟨.zero, .zero, .one⟩

def ofPosition (position : Vec3) : Transform := { identity with position }

def ofTurns (position turns scale : Vec3) : Transform := ⟨position, turns.scaleBy tau, scale⟩

def same (first second : Transform) : Bool :=
  first.position.same second.position && first.rotation.same second.rotation &&
    first.scale.same second.scale

end Transform
end SceneGraph
