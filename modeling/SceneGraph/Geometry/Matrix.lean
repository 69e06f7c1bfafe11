import SceneGraph.Geometry.Transform

/-!
The model matrix of a transform: scale, then rotate about X, Y and Z, then translate. All sums and
products are rounded to singles in the order in which they are written.
-/
namespace SceneGraph

structure Quaternion where
  x : Float32
  y : Float32
  z : Float32
  w : Float32
deriving DecidableEq, Repr

namespace Quaternion

def aboutX (angle : Float32) : Quaternion :=
  ⟨(angle * 0.5).sin, 0.0, 0.0, (angle * 0.5).cos⟩

def aboutY (angle : Float32) : Quaternion :=
  ⟨0.0, (angle * 0.5).sin, 0.0, (angle * 0.5).cos⟩

def aboutZ (angle : Float32) : Quaternion :=
  ⟨0.0, 0.0, (angle * 0.5).sin, (angle * 0.5).cos⟩

/-- The rotation `second` followed by the rotation `first`. -/
def after (first second : Quaternion) : Quaternion where
  x := (first.w * second.x + first.x * second.w) + (first.y * second.z + -(first.z * second.y))
  y := (first.w * second.y + -(first.x * second.z)) + (first.y * second.w + first.z * second.x)
  z := (first.w * second.z + first.x * second.y) + (-(first.y * second.x) + first.z * second.w)
  w := (first.w * second.w + -(first.x * second.x)) +
    (-(first.y * second.y) + -(first.z * second.z))

def axes (rotation : Quaternion) : Vec3 × Vec3 × Vec3 :=
  let ⟨x, y, z, w⟩ := rotation
  let (x2, y2, z2) := (x + x, y + y, z + z)
  let (xx, xy, xz) := (x * x2, x * y2, x * z2)
  let (yy, yz, zz) := (y * y2, y * z2, z * z2)
  let (wx, wy, wz) := (w * x2, w * y2, w * z2)
  (⟨1.0 - (yy + zz), xy + wz, xz - wy⟩, ⟨xy - wz, 1.0 - (xx + zz), yz + wx⟩,
    ⟨xz + wy, yz - wx, 1.0 - (xx + yy)⟩)

end Quaternion

structure Vec4 where
  x : Float32
  y : Float32
  z : Float32
  w : Float32
deriving DecidableEq, Repr

namespace Vec4

def ofVec3 (vector : Vec3) (w : Float32) : Vec4 := ⟨vector.x, vector.y, vector.z, w⟩

def scaleBy (vector : Vec4) (factor : Float32) : Vec4 :=
  ⟨vector.x * factor, vector.y * factor, vector.z * factor, vector.w * factor⟩

def add (first second : Vec4) : Vec4 :=
  ⟨first.x + second.x, first.y + second.y, first.z + second.z, first.w + second.w⟩

def toList (vector : Vec4) : List Float32 := [vector.x, vector.y, vector.z, vector.w]

end Vec4

/-- A matrix by columns. -/
structure Matrix4 where
  xAxis : Vec4
  yAxis : Vec4
  zAxis : Vec4
  wAxis : Vec4
deriving DecidableEq, Repr

namespace Matrix4

def columns (matrix : Matrix4) : List Float32 :=
  matrix.xAxis.toList ++ matrix.yAxis.toList ++ matrix.zAxis.toList ++ matrix.wAxis.toList

def transformPoint (matrix : Matrix4) (point : Vec3) : Vec3 :=
  let image := (((matrix.xAxis.scaleBy point.x).add (matrix.yAxis.scaleBy point.y)).add
    (matrix.zAxis.scaleBy point.z)).add matrix.wAxis
  ⟨image.x, image.y, image.z⟩

end Matrix4

namespace Transform

/-- The combined rotation, about X first and about Z last. -/
def quaternion (transform : Transform) : Quaternion :=
  ((Quaternion.aboutZ transform.rotation.z).after (Quaternion.aboutY transform.rotation.y)).after
    (Quaternion.aboutX transform.rotation.x)

def matrix (transform : Transform) : Matrix4 :=
  let (xAxis, yAxis, zAxis) := transform.quaternion.axes
  ⟨(Vec4.ofVec3 xAxis 0.0).scaleBy transform.scale.x,
    (Vec4.ofVec3 yAxis 0.0).scaleBy transform.scale.y,
    (Vec4.ofVec3 zAxis 0.0).scaleBy transform.scale.z,
    Vec4.ofVec3 transform.position 1.0⟩

end Transform
end SceneGraph
