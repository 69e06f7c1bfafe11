import Mathlib.Data.List.Forall2
import SceneGraph.Proofs.Execution
import SceneGraph.Proofs.World.Slots
import SceneGraph.Scene.Instance

/-!
The entities that a blueprint becomes. They are numbered in preorder behind those that exist, so
the entities of a subtree follow one another, and what is written to a parent or a child later
does not touch the rows in between.
-/
namespace SceneGraph

/-- An entity to be made: its blueprint, its number and its parent. -/
structure Placement where
  blueprint : Blueprint
  entity : Entity
  parent : Option Entity

namespace Blueprint

def rootsFrom (first : Nat) : List Blueprint → List Entity
  | [] => []
  | blueprint :: blueprints => ⟨first⟩ :: rootsFrom (first + blueprint.entityCount) blueprints

mutual

/-- The entities of a blueprint in preorder, numbered from `first` on. -/
def placements (parent : Option Entity) (first : Nat) : Blueprint → List Placement
  | ⟨stamp, children⟩ =>
      ⟨⟨stamp, children⟩, ⟨first⟩, parent⟩ :: forestPlacements ⟨first⟩ (first + 1) children

def forestPlacements (parent : Entity) (first : Nat) : List Blueprint → List Placement
  | [] => []
  | blueprint :: blueprints =>
      placements (some parent) first blueprint ++
        forestPlacements parent (first + blueprint.entityCount) blueprints

end

mutual

theorem length_placements (parent : Option Entity) (first : Nat) :
    ∀ blueprint : Blueprint, (blueprint.placements parent first).length = blueprint.entityCount
  | ⟨stamp, children⟩ => by
      rw [placements, entityCount, List.length_cons, length_forestPlacements]
      exact Nat.add_comm _ _

theorem length_forestPlacements (parent : Entity) (first : Nat) :
    ∀ blueprints : List Blueprint,
      (forestPlacements parent first blueprints).length = forestCount blueprints
  | [] => rfl
  | blueprint :: blueprints => by
      rw [forestPlacements, forestCount, List.length_append, length_placements,
        length_forestPlacements]

end

mutual

theorem entities_placements (parent : Option Entity) (first : Nat) :
    ∀ blueprint : Blueprint, (blueprint.placements parent first).map Placement.entity =
      (List.range' first blueprint.entityCount).map Entity.mk
  | ⟨stamp, children⟩ => by
      rw [placements, entityCount, List.map_cons, entities_forestPlacements, Nat.add_comm 1,
        List.range'_succ, List.map_cons]

theorem entities_forestPlacements (parent : Entity) (first : Nat) :
    ∀ blueprints : List Blueprint, (forestPlacements parent first blueprints).map Placement.entity =
      (List.range' first (forestCount blueprints)).map Entity.mk
  | [] => rfl
  | blueprint :: blueprints => by
      rw [forestPlacements, forestCount, List.map_append, entities_placements,
        entities_forestPlacements, ← List.map_append, List.range'_append_1]

end

mutual

theorem stamps_placements (parent : Option Entity) (first depth : Nat) :
    ∀ blueprint : Blueprint,
      (blueprint.placements parent first).map (fun placement => placement.blueprint.stamp) =
        (blueprint.flatten depth).map Prod.snd
  | ⟨stamp, children⟩ => by
      rw [placements, flatten, List.map_cons, List.map_cons, stamps_forestPlacements]

theorem stamps_forestPlacements (parent : Entity) (first depth : Nat) :
    ∀ blueprints : List Blueprint,
      (forestPlacements parent first blueprints).map (fun placement => placement.blueprint.stamp) =
        (flattenForest depth blueprints).map Prod.snd
  | [] => rfl
  | blueprint :: blueprints => by
      rw [forestPlacements, flattenForest, List.map_append, List.map_append, stamps_placements,
        stamps_forestPlacements]

end

theorem placements_eq_cons (parent : Option Entity) (first : Nat) (blueprint : Blueprint) :
    blueprint.placements parent first = ⟨blueprint, ⟨first⟩, parent⟩ ::
      forestPlacements ⟨first⟩ (first + 1) blueprint.children := by
  cases blueprint
  rw [placements]

end Blueprint

namespace Placement

def children (placement : Placement) : List Entity :=
  Blueprint.rootsFrom (placement.entity.id + 1) placement.blueprint.children

/-- The slots of the entity in the order in which they are written. -/
def slots (placement : Placement) : Slots :=
  let own := (Slots.ofStamp placement.blueprint.stamp).timed.insert (.children placement.children)
  match placement.parent with
  | none => own
  | some parent => own.insert (.parent parent)

/-- What a slot of the entity holds in the end: its parent and its children in theirs, whatever was
recorded there, a time scale of one if none was recorded, and otherwise what was recorded. -/
def component? (placement : Placement) (id : TypeId) : Option Component :=
  if id = ComponentType.parent.id ∧ placement.parent.isSome then placement.parent.map .parent
  else if id = ComponentType.children.id then some (.children placement.children)
  else if id = ComponentType.timeScale.id ∧ ¬ placement.blueprint.stamp.contains id then
    some (.timeScale ⟨1.0⟩)
  else placement.blueprint.stamp.last? id

theorem find?_slots (placement : Placement) (id : TypeId) :
    placement.slots.find? id = placement.component? id := by
  obtain ⟨blueprint, entity, parent⟩ := placement
  have unfilled : (blueprint.stamp.last? id).isNone = !blueprint.stamp.contains id := by
    rw [← Stamp.isSome_last?, Option.not_isSome]
  have childrenId : ∀ children, (Component.children children).id = ComponentType.children.id :=
    fun _ => rfl
  have parentId : ∀ parent, (Component.parent parent).id = ComponentType.parent.id :=
    fun _ => rfl
  unfold slots component?
  cases parent <;>
    simp [Slots.find?_insert, Slots.find?_timed, Slots.find?_ofStamp, unfilled, childrenId,
      parentId, TimeScale.realTime]

end Placement

namespace Blueprint

theorem roots_forestPlacements (parent : Entity) (first : Nat) (blueprints : List Blueprint) :
    List.Forall₂ (fun child entity =>
      ⟨child, entity, some parent⟩ ∈ forestPlacements parent first blueprints)
      blueprints (rootsFrom first blueprints) := by
  induction blueprints generalizing first with
  | nil => exact .nil
  | cons blueprint blueprints ih =>
    rw [rootsFrom, forestPlacements]
    refine .cons ?_ ((ih _).imp fun _ _ member => List.mem_append_right _ member)
    rw [placements_eq_cons]
    exact List.mem_append_left _ List.mem_cons_self

mutual

/-- The entities that a placement lists as its children are those of its blueprint's children. -/
theorem children_placements (parent : Option Entity) (first : Nat) :
    ∀ (blueprint : Blueprint) {placement : Placement},
      placement ∈ blueprint.placements parent first →
      List.Forall₂ (fun child entity =>
        ⟨child, entity, some placement.entity⟩ ∈ blueprint.placements parent first)
        placement.blueprint.children placement.children
  | ⟨stamp, children⟩, placement, member => by
      rw [placements] at member ⊢
      rcases List.mem_cons.mp member with rfl | inside
      · have roots := roots_forestPlacements ⟨first⟩ (first + 1) children
        exact roots.imp fun _ _ found => List.mem_cons_of_mem _ found
      · have listed := children_forestPlacements ⟨first⟩ (first + 1) children inside
        exact listed.imp fun _ _ found => List.mem_cons_of_mem _ found

theorem children_forestPlacements (parent : Entity) (first : Nat) :
    ∀ (blueprints : List Blueprint) {placement : Placement},
      placement ∈ forestPlacements parent first blueprints →
      List.Forall₂ (fun child entity =>
        ⟨child, entity, some placement.entity⟩ ∈ forestPlacements parent first blueprints)
        placement.blueprint.children placement.children
  | [], placement, member => by
      rw [forestPlacements] at member
      cases member
  | blueprint :: blueprints, placement, member => by
      rw [forestPlacements] at member ⊢
      rcases List.mem_append.mp member with inside | inside
      · have listed := children_placements (some parent) first blueprint inside
        exact listed.imp fun _ _ found => List.mem_append_left _ found
      · have listed := children_forestPlacements parent _ blueprints inside
        exact listed.imp fun _ _ found => List.mem_append_right _ found

end

mutual

theorem parent_placements (parent : Entity) (first : Nat) :
    ∀ (blueprint : Blueprint) {placement : Placement},
      placement ∈ blueprint.placements (some parent) first → placement.parent ≠ none
  | ⟨stamp, children⟩, placement, member => by
      rw [placements] at member
      rcases List.mem_cons.mp member with rfl | inside
      · exact Option.some_ne_none parent
      · exact parent_forestPlacements ⟨first⟩ (first + 1) children inside

theorem parent_forestPlacements (parent : Entity) (first : Nat) :
    ∀ (blueprints : List Blueprint) {placement : Placement},
      placement ∈ forestPlacements parent first blueprints → placement.parent ≠ none
  | [], placement, member => by
      rw [forestPlacements] at member
      cases member
  | blueprint :: blueprints, placement, member => by
      rw [forestPlacements] at member
      rcases List.mem_append.mp member with inside | inside
      · exact parent_placements parent first blueprint inside
      · exact parent_forestPlacements parent _ blueprints inside

end

variable {parent : Option Entity} {first index : Nat} {blueprint : Blueprint}
  {placement : Placement}

theorem entity_eq_of_placements
    (found : (blueprint.placements parent first)[index]? = some placement) :
    placement.entity = ⟨first + index⟩ := by
  have bound : index < blueprint.entityCount := by
    rw [← length_placements parent first]
    exact (List.getElem?_eq_some_iff.mp found).1
  have listed : ((blueprint.placements parent first).map Placement.entity)[index]? =
      some placement.entity := by
    rw [List.getElem?_map, found]
    rfl
  rw [entities_placements, List.getElem?_map, List.getElem?_range' bound] at listed
  simpa using (Option.some.inj listed).symm

theorem parent_eq_none_iff (found : (blueprint.placements none first)[index]? = some placement) :
    placement.parent = none ↔ index = 0 := by
  rw [placements_eq_cons] at found
  cases index with
  | zero =>
    cases found
    exact ⟨fun _ => rfl, fun _ => rfl⟩
  | succ index =>
    have inside : placement ∈ forestPlacements ⟨first⟩ (first + 1) blueprint.children :=
      List.mem_of_getElem? found
    have parented := parent_forestPlacements ⟨first⟩ _ blueprint.children inside
    exact ⟨fun orphan => absurd orphan parented, fun zero => absurd zero (Nat.succ_ne_zero _)⟩

end Blueprint

/-- The program succeeds on a world with the rows and makes others of them, whatever index and log
it finds. -/
def Populate.Makes {α : Type} (program : Populate α) (rows : List Slots) (value : α)
    (made : List Slots) : Prop :=
  ∀ index log, ∃ indexAfter logAfter, program.run.run ⟨.ofRows rows, index, log⟩ =
    (.ok value, ⟨.ofRows made, indexAfter, logAfter⟩)

namespace Populate.Makes

variable {α β : Type} {rows middle made : List Slots}

theorem pure (value : α) : Makes (Pure.pure value) rows value rows :=
  fun index log => ⟨index, log, rfl⟩

theorem bind {program : Populate α} {next : α → Populate β} {value : α} {result : β}
    (first : Makes program rows value middle) (rest : Makes (next value) middle result made) :
    Makes (program >>= next) rows result made := by
  intro index log
  obtain ⟨indexBetween, logBetween, ran⟩ := first index log
  obtain ⟨indexAfter, logAfter, finished⟩ := rest indexBetween logBetween
  exact ⟨indexAfter, logAfter, (run_bind_ok ran).trans finished⟩

theorem report (events : List Event) : Makes (Populate.report events) rows () rows :=
  fun index log => ⟨index, log ++ events, rfl⟩

theorem record (entity : Entity) (name : Option String) :
    Makes (Populate.record entity name) rows () rows := by
  intro index log
  cases index <;> cases name <;> exact ⟨_, _, rfl⟩

theorem spawn (stamp : Stamp) :
    Makes (Populate.spawn stamp) rows ⟨rows.length + 1⟩ (rows ++ [.ofStamp stamp]) := by
  intro index log
  have ran : ∀ before : Population, (Populate.spawn stamp).run.run before =
      (.ok (before.world.spawn stamp).1, { before with world := (before.world.spawn stamp).2 }) :=
    fun _ => rfl
  refine ⟨index, log, ?_⟩
  rw [ran, World.spawn_ofRows]

variable (old : List Slots) (row : Slots) (rest : List Slots)

theorem assign (component : Component) :
    Makes (Populate.assign ⟨old.length + 1⟩ component) (old ++ row :: rest) ()
      (old ++ row.insert component :: rest) := by
  intro index log
  have found : (get : Populate Population).run.run ⟨.ofRows (old ++ row :: rest), index, log⟩ =
      (.ok ⟨.ofRows (old ++ row :: rest), index, log⟩, _) := rfl
  refine ⟨index, log, ?_⟩
  unfold Populate.assign
  rw [run_bind_ok found, World.assign_ofRows]
  rfl

theorem ensureTimeScale :
    Makes (Populate.ensureTimeScale ⟨old.length + 1⟩) (old ++ row :: rest) ()
      (old ++ row.timed :: rest) := by
  intro index log
  have held := World.has_ofRows old row rest .timeScale
  unfold Populate.ensureTimeScale Slots.timed
  change ∃ indexAfter logAfter, StateT.run (ExceptT.run (if World.has _ _ _ then _ else _)) _ = _
  rw [held]
  split
  · exact ⟨index, log, rfl⟩
  · exact assign old row rest _ index log

end Populate.Makes

namespace Blueprint
open Populate

mutual

theorem makes_placements : ∀ (blueprint : Blueprint) (rows : List Slots),
    Makes blueprint.instantiate rows ⟨rows.length + 1⟩
      (rows ++ (blueprint.placements none (rows.length + 1)).map Placement.slots)
  | ⟨stamp, children⟩, rows => by
      have below := makes_forestPlacements children ⟨rows.length + 1⟩
        (rows ++ [(Slots.ofStamp stamp).timed])
      rw [List.length_append, List.append_assoc] at below
      rw [instantiate, placements]
      refine .bind (.spawn stamp) ?_
      refine .bind (.record _ _) ?_
      refine .bind (.ensureTimeScale rows _ []) ?_
      refine .bind below ?_
      refine .bind (.report _) ?_
      -- The rows of the children stand behind the root's, which is written once more.
      exact .bind (.assign rows _ _ _) (.pure _)

theorem makes_forestPlacements : ∀ (blueprints : List Blueprint) (parent : Entity)
    (rows : List Slots),
    Makes (instantiateChildren parent blueprints) rows (rootsFrom (rows.length + 1) blueprints)
      (rows ++ (forestPlacements parent (rows.length + 1) blueprints).map Placement.slots)
  | [], parent, rows => by
      rw [instantiateChildren, rootsFrom, forestPlacements, List.map_nil, List.append_nil]
      exact .pure []
  | blueprint :: blueprints, parent, rows => by
      have first := makes_placements blueprint rows
      rw [placements_eq_cons, List.map_cons] at first
      have rest := makes_forestPlacements blueprints parent
        (rows ++ (blueprint.placements (some parent) (rows.length + 1)).map Placement.slots)
      rw [List.length_append, List.length_map, length_placements, List.append_assoc,
        ← List.map_append, Nat.add_right_comm] at rest
      rw [instantiateChildren, rootsFrom, forestPlacements]
      refine .bind first ?_
      -- The parent goes into the child's own row, the first of those that the child made.
      refine .bind (.assign rows _ _ _) ?_
      rw [placements_eq_cons] at rest ⊢
      exact .bind rest (.pure _)

end

end Blueprint

/-- Instantiation succeeds on every world and leaves the entities that exist as they are. The new
ones are those of the placements, numbered in preorder, and hold what the placements say. -/
theorem World.instantiate_exact (world : World) (blueprint : Blueprint) :
    let placements := blueprint.placements none world.next.id
    ∃ after : Population,
      world.instantiate blueprint = (.ok world.next, after) ∧
      after.world.size = world.size + blueprint.entityCount ∧
      (∀ entity, world.contains entity → after.world.slots? entity = world.slots? entity) ∧
      placements.length = blueprint.entityCount ∧
      (placements.map fun placement => placement.blueprint.stamp) =
        (blueprint.flatten 0).map Prod.snd ∧
      ∀ i placement, placements[i]? = some placement →
        placement.entity = ⟨world.next.id + i⟩ ∧
        (placement.parent = none ↔ i = 0) ∧
        List.Forall₂ (fun child entity => ⟨child, entity, some placement.entity⟩ ∈ placements)
          placement.blueprint.children placement.children ∧
        ∃ slots, after.world.slots? placement.entity = some slots ∧
          ∀ id, slots.find? id = placement.component? id := by
  intro placements
  obtain ⟨rows, rfl⟩ := world.exists_eq_ofRows
  obtain ⟨index, log, ran⟩ := blueprint.makes_placements rows none #[]
  refine ⟨_, ran, ?_, fun entity contained => slots?_append _ contained, ?_, ?_, ?_⟩
  · rw [size_ofRows, size_ofRows, List.length_append, List.length_map,
      Blueprint.length_placements]
  · exact blueprint.length_placements none _
  · exact blueprint.stamps_placements none _ 0
  · intro i placement found
    have numbered : placement.entity = ⟨rows.length + 1 + i⟩ :=
      Blueprint.entity_eq_of_placements found
    have listed := Blueprint.children_placements none _ blueprint (List.mem_of_getElem? found)
    refine ⟨numbered, Blueprint.parent_eq_none_iff found, listed, placement.slots, ?_,
      placement.find?_slots⟩
    rw [numbered, Nat.add_right_comm, slots?_ofRows,
      List.getElem?_append_right (Nat.le_add_right _ _), Nat.add_sub_cancel_left,
      List.getElem?_map]
    exact congrArg (Option.map Placement.slots) found

end SceneGraph
