import Mathlib.Data.List.Induction
import Mathlib.Logic.Relation
import Mathlib.Order.WellFounded
import SceneGraph.Proofs.Scene.Hierarchy

/-!
Programs that work on one world: they create bare entities, instantiate blueprints and construct
standard components, also in vain. Whatever they do in whatever order, the hierarchy is a forest.
-/
namespace SceneGraph
open Relation

namespace World
variable {world : World} {roots : List Entity}

def ChildOf (world : World) (child parent : Entity) : Prop := child ∈ world.childrenOf parent

/-- Parents and children agree, ids grow downwards and along every list of children, and every
entity stands below exactly one of the tops, which are the entities without a parent. -/
structure Hierarchical (world : World) (tops : List Entity) : Prop where
  linked : ∀ parent child, child ∈ world.childrenOf parent ↔ world.parentOf? child = some parent
  nodup : ∀ parent, (world.childrenOf parent).Nodup
  unshared : ∀ parent other child, child ∈ world.childrenOf parent →
    child ∈ world.childrenOf other → parent = other
  ascending : ∀ parent, (world.childrenOf parent).Pairwise fun child other => child.id < other.id
  below : ∀ parent, ∀ child ∈ world.childrenOf parent,
    world.contains child ∧ parent.id < child.id
  filled : ∀ entity, world.has entity .parent = (world.parentOf? entity).isSome
  mem_tops : ∀ entity, entity ∈ tops ↔
    world.contains entity ∧ world.has entity .parent = false
  grounded : WellFounded world.ChildOf
  topped : ∀ entity, world.contains entity →
    ∃! top, top ∈ tops ∧ ReflTransGen world.ChildOf entity top

section Grown
variable (grows : empty.Extends world roots) {entity parent child : Entity}
include grows

theorem Extends.childOf_iff : world.ChildOf child parent ↔ world.parentOf? child = some parent :=
  grows.linked parent child (not_contains_empty parent) (not_contains_empty child)

theorem Extends.child_below (member : world.ChildOf child parent) :
    world.contains child ∧ parent.id < child.id :=
  (grows.below parent child (not_contains_empty parent) member).2

theorem Extends.parent_unique {other : Entity} (first : world.ChildOf child parent)
    (second : world.ChildOf child other) : parent = other :=
  Option.some.inj ((grows.childOf_iff.mp first).symm.trans (grows.childOf_iff.mp second))

theorem Extends.mem_roots_iff : entity ∈ roots ↔
    world.contains entity ∧ world.parentOf? entity = none :=
  (grows.mem_roots entity).trans ⟨And.right, fun top => ⟨not_contains_empty entity, top⟩⟩

/-- Ids grow downwards and end with the world. -/
theorem Extends.grounded : WellFounded world.ChildOf := by
  refine Subrelation.wf (fun {child parent} member => ?_)
    (measure fun entity : Entity => world.size - entity.id).wf
  obtain ⟨present, smaller⟩ := grows.child_below member
  have last := (contains_iff.mp present).2
  change world.size - child.id < world.size - parent.id
  omega

/-- Parents have smaller ids, so that they come to an end too. -/
theorem Extends.exists_top (present : world.contains entity) :
    ∃ top ∈ roots, ReflTransGen world.ChildOf entity top := by
  induction number : entity.id using Nat.strong_induction_on generalizing entity with
  | _ number ih =>
    subst number
    cases found : world.parentOf? entity with
    | none => exact ⟨entity, grows.mem_roots_iff.mpr ⟨present, found⟩, .refl⟩
    | some above =>
      have member := grows.childOf_iff.mpr found
      obtain ⟨top, root, path⟩ := ih above.id (grows.child_below member).2
        (grows.above above entity (not_contains_empty entity) found).2 rfl
      exact ⟨top, root, path.head member⟩

theorem Extends.eq_of_top {top other : Entity} (root : top ∈ roots)
    (path : ReflTransGen world.ChildOf top other) : top = other := by
  rcases path.cases_head with same | ⟨parent, member, _⟩
  · exact same
  · cases (grows.mem_roots_iff.mp root).2.symm.trans (grows.childOf_iff.mp member)

/-- What grows from nothing is a forest. -/
theorem Extends.hierarchical : world.Hierarchical roots where
  linked parent child := grows.childOf_iff
  nodup parent := (grows.ascending parent (not_contains_empty parent)).imp fun smaller same =>
    absurd (congrArg Entity.id same) (Nat.ne_of_lt smaller)
  unshared parent other child := grows.parent_unique
  ascending parent := grows.ascending parent (not_contains_empty parent)
  below parent child := grows.child_below
  filled entity := grows.filled entity (not_contains_empty entity)
  mem_tops entity := by
    rw [grows.mem_roots_iff, grows.filled entity (not_contains_empty entity),
      Option.isSome_eq_false_iff, Option.isNone_iff_eq_none]
  grounded := grows.grounded
  topped entity present := by
    obtain ⟨top, root, path⟩ := grows.exists_top present
    refine ⟨top, ⟨root, path⟩, fun other ⟨otherRoot, otherPath⟩ => ?_⟩
    have climbs : Relator.RightUnique world.ChildOf :=
      fun child parent other => grows.parent_unique
    rcases ReflTransGen.total_of_right_unique climbs path otherPath with up | up
    · exact (grows.eq_of_top root up).symm
    · exact grows.eq_of_top otherRoot up

end Grown

end World

/-- What is done to a world: a bare entity, the entities of blueprints, or a component declared for
some entity. -/
inductive Operation where
  | create
  | instantiate (call : Instantiation)
  | construct (entity : Entity) (name : String) (data : Tree)

namespace Operation

/-- The world after an operation, and the root or bare entities that it returns. -/
def run (world : World) : Operation → World × List Entity
  | create => (world.create.2, [world.create.1])
  | instantiate call => call.run world
  | construct entity name data => ((Registry.defaults.construct world entity name data).1, [])

def Built : Operation → Prop
  | instantiate call => ∀ blueprint ∈ call.blueprints, blueprint.Built
  | create => True
  | construct _ _ _ => True

/-- The world after a sequence of operations, and all that they return. -/
def runAll (operations : List Operation) : World × List Entity :=
  operations.foldl (fun before operation =>
    ((operation.run before.1).1, before.2 ++ (operation.run before.1).2)) (.empty, [])

theorem run_extends {operation : Operation} (built : operation.Built) (world : World) :
    world.Extends (operation.run world).1 (operation.run world).2 := by
  obtain ⟨rows, rfl⟩ := world.exists_eq_ofRows
  cases operation with
  | create =>
    have created : (World.ofRows rows).create =
        (⟨rows.length + 1⟩, .ofRows (rows ++ [.empty])) := by
      simp [World.create, World.add, World.next, World.ofRows]
    rw [run, created]
    exact World.extends_create
  | instantiate call =>
    rw [run, call.run_ofRows]
    exact World.extends_grown fun blueprint member => (built blueprint member).plain
  | construct entity name data => exact World.extends_construct name data

theorem runAll_extends {operations : List Operation}
    (built : ∀ operation ∈ operations, operation.Built) :
    World.empty.Extends (runAll operations).1 (runAll operations).2 := by
  induction operations using List.reverseRecOn with
  | nil => exact .refl _
  | append_singleton earlier last ih =>
    have before := ih fun operation member => built operation (List.mem_append_left _ member)
    have step := run_extends (built last (by simp)) (runAll earlier).1
    rw [runAll, List.foldl_append]
    exact before.trans step

/-- Any operations on an empty world, with blueprints of standard builds, leave a forest whose tops
are the roots that were returned and the bare entities. -/
theorem runAll_hierarchical {operations : List Operation}
    (built : ∀ operation ∈ operations, operation.Built) :
    (runAll operations).1.Hierarchical (runAll operations).2 :=
  (runAll_extends built).hierarchical

end Operation

/-- A bare entity, the lamps twice, and data for an entity that exists and for one that does not. -/
theorem lamps_hierarchical :
    let ran := Operation.runAll [.create, .instantiate (.all none Sample.lampForest),
      .construct ⟨2⟩ "time_scale" .null, .construct ⟨12⟩ "transform" .null,
      .instantiate (.all (some .empty) Sample.lampForest)]
    ran.1.Hierarchical ran.2 ∧ ran.2 = [⟨1⟩, ⟨2⟩, ⟨6⟩] ∧ ran.1.childrenOf ⟨6⟩ = [⟨7⟩, ⟨8⟩] := by
  refine ⟨Operation.runAll_hierarchical (List.forall_iff_forall_mem.mp ?_),
    by decide +kernel, by decide +kernel⟩
  have own : ∀ blueprint ∈ Sample.lampForest, blueprint.Built :=
    fun blueprint member => ⟨_, Sample.lampForest_built, member⟩
  exact ⟨trivial, own, trivial, trivial, own⟩

end SceneGraph
