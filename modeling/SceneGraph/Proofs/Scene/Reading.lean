import Mathlib.Data.List.Forall2
import Mathlib.Data.Option.Basic
import SceneGraph.Proofs.Scene.Standard

/-!
What the standard constructors look at: the shapes of their data, the numbers that scalars stand
for, items in order and fields by name. Data that are alike in these make the same component, or are
refused alike.
-/
namespace SceneGraph

namespace Tree

inductive SameShape : Tree → Tree → Prop
  | null : SameShape .null .null
  | scalar (value other : Scalar) : SameShape (.scalar value) (.scalar other)
  | sequence (items others : List Tree) : SameShape (.sequence items) (.sequence others)
  | map (fields others : OrderedMap Tree) : SameShape (.map fields) (.map others)

theorem SameShape.shape_eq {data other : Tree} (same : data.SameShape other) :
    data.shape = other.shape := by
  cases same <;> rfl

/-- Related trees differ in nothing that the standard constructors look at. -/
structure ReadAlike (related : Tree → Tree → Prop) : Prop where
  shape : ∀ {data other}, related data other → data.SameShape other
  number : ∀ {data other}, related data other → data.float32? = other.float32?
  items : ∀ {items others}, related (.sequence items) (.sequence others) →
    List.Forall₂ related items others
  fields : ∀ {fields others}, related (.map fields) (.map others) → ∀ key,
    Option.Rel related (fields.get? key) (others.get? key)

namespace ReadAlike

variable {related : Tree → Tree → Prop} (alike : ReadAlike related)
include alike

theorem numberIn_eq {data other : Tree} (same : related data other) (field : String) :
    data.numberIn field = other.numberIn field := by
  unfold numberIn
  rw [alike.number same, (alike.shape same).shape_eq]

theorem axesOf_eq {items others : List Tree} (same : List.Forall₂ related items others)
    (field : String) : axesOf field items = axesOf field others := by
  unfold axesOf
  have first := List.forall₂_take 3 same
  generalize items.take 3 = items, others.take 3 = others at first
  induction first with
  | nil => rfl
  | cons item _ ih => rw [List.mapM_cons, List.mapM_cons, alike.numberIn_eq item, ih]

theorem vectorField_eq {fields others : OrderedMap Tree}
    (same : related (.map fields) (.map others)) (field : String) (default : Float32) :
    vectorField fields field default = vectorField others field default := by
  unfold vectorField
  have held := alike.fields same field
  generalize fields.get? field = value?, others.get? field = other? at held
  cases held with
  | none => rfl
  | some value =>
    cases alike.shape value with
    | null => rfl
    | scalar => rfl
    | sequence => simp only [alike.axesOf_eq (alike.items value)]
    | map => rfl

variable {data other : Tree} (same : related data other)
include same

theorem ofTree_transform_eq : Transform.ofTree data = Transform.ofTree other := by
  cases alike.shape same with
  | null => rfl
  | scalar => rfl
  | sequence => rfl
  | map =>
    unfold Transform.ofTree
    dsimp only
    rw [alike.vectorField_eq same, alike.vectorField_eq same, alike.vectorField_eq same]

theorem ofTree_timeScale_eq : TimeScale.ofTree data = TimeScale.ofTree other := by
  cases alike.shape same with
  | null => rfl
  | scalar =>
    unfold TimeScale.ofTree
    dsimp only
    rw [alike.numberIn_eq same]
  | sequence => rfl
  | map fields others =>
    have held := alike.fields same "scale"
    unfold TimeScale.ofTree
    dsimp only
    generalize fields.get? "scale" = value?, others.get? "scale" = other? at held
    cases held with
    | none => rfl
    | some value => simp only [alike.numberIn_eq value]

/-- Data that are alike make the same component, or are refused alike. -/
theorem read_eq (standard : Standard) : standard.read data = standard.read other := by
  cases standard with
  | transform => rw [Standard.read, alike.ofTree_transform_eq same, Standard.read]
  | timeScale => rw [Standard.read, alike.ofTree_timeScale_eq same, Standard.read]

end ReadAlike
end Tree
end SceneGraph
