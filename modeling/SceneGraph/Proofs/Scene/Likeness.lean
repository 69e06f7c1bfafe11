import SceneGraph.Proofs.Scene.Growth
import SceneGraph.Proofs.World.Canonical

/-!
Forests that differ in their stamps only. Alike forests have the same number of entities in the same
places, and if the stamps hold the same components, in whatever order they were recorded, they
become the same entities.
-/
namespace SceneGraph

/-- The same tree of blueprints, with related stamps. -/
inductive Blueprint.Alike (stamps : Stamp → Stamp → Prop) : Blueprint → Blueprint → Prop
  | mk {stamp otherStamp : Stamp} {children others : List Blueprint}
      (same : stamps stamp otherStamp) (below : List.Forall₂ (Alike stamps) children others) :
      Alike stamps ⟨stamp, children⟩ ⟨otherStamp, others⟩

namespace Blueprint

variable {stamps : Stamp → Stamp → Prop}

mutual

theorem Alike.eq : ∀ {blueprint other : Blueprint}, blueprint.Alike Eq other → blueprint = other
  | ⟨stamp, children⟩, ⟨_, _⟩, .mk same below => by rw [same, alikeAll_eq below]

theorem alikeAll_eq : ∀ {blueprints others : List Blueprint},
    List.Forall₂ (Blueprint.Alike Eq) blueprints others → blueprints = others
  | [], [], .nil => rfl
  | blueprint :: blueprints, _ :: _, .cons first rest => by rw [first.eq, alikeAll_eq rest]

end

mutual

theorem Alike.entityCount_eq : ∀ {blueprint other : Blueprint}, blueprint.Alike stamps other →
    blueprint.entityCount = other.entityCount
  | ⟨_, children⟩, ⟨_, _⟩, .mk _ below => by
      rw [entityCount, entityCount, forestCount_alike below]

theorem forestCount_alike : ∀ {blueprints others : List Blueprint},
    List.Forall₂ (Blueprint.Alike stamps) blueprints others →
      forestCount blueprints = forestCount others
  | [], [], .nil => rfl
  | blueprint :: blueprints, _ :: _, .cons first rest => by
      rw [forestCount, forestCount, first.entityCount_eq, forestCount_alike rest]

end

theorem rootsFrom_alike {blueprints others : List Blueprint}
    (alike : List.Forall₂ (Blueprint.Alike stamps) blueprints others) (first : Nat) :
    rootsFrom first blueprints = rootsFrom first others := by
  induction alike generalizing first with
  | nil => rfl
  | cons head _ ih => rw [rootsFrom, rootsFrom, head.entityCount_eq, ih]

mutual

/-- The entities of a blueprint hold the same as those of one with the same stamps. -/
theorem Alike.slots_placements : ∀ {blueprint other : Blueprint},
    blueprint.Alike Stamp.Same other → ∀ (parent : Option Entity) (first : Nat),
      (blueprint.placements parent first).map Placement.slots =
        (other.placements parent first).map Placement.slots
  | ⟨stamp, children⟩, ⟨_, _⟩, .mk same below, parent, first => by
      rw [placements, placements, List.map_cons, List.map_cons,
        slots_forestPlacements below ⟨first⟩ (first + 1)]
      have own := Slots.ofStamp_same same
      have roots := rootsFrom_alike below (first + 1)
      simp only [Placement.slots, Placement.children, own, roots]

theorem slots_forestPlacements : ∀ {blueprints others : List Blueprint},
    List.Forall₂ (Blueprint.Alike Stamp.Same) blueprints others →
      ∀ (parent : Entity) (first : Nat),
      (forestPlacements parent first blueprints).map Placement.slots =
        (forestPlacements parent first others).map Placement.slots
  | [], [], .nil, _, _ => rfl
  | blueprint :: blueprints, _ :: _, .cons head rest, parent, first => by
      rw [forestPlacements, forestPlacements, List.map_append, List.map_append,
        head.slots_placements, head.entityCount_eq, slots_forestPlacements rest]

end

theorem slots_rootPlacements {blueprints others : List Blueprint}
    (alike : List.Forall₂ (Blueprint.Alike Stamp.Same) blueprints others) (first : Nat) :
    (rootPlacements first blueprints).map Placement.slots =
      (rootPlacements first others).map Placement.slots := by
  induction alike generalizing first with
  | nil => rfl
  | cons head _ ih =>
    rw [rootPlacements, rootPlacements, List.map_append, List.map_append, head.slots_placements,
      head.entityCount_eq, ih]

end Blueprint

theorem World.instantiateAll_alike {forest others : List Blueprint}
    (alike : List.Forall₂ (Blueprint.Alike Stamp.Same) forest others) (world : World) :
    (world.instantiateAll forest).1 = (world.instantiateAll others).1 ∧
      (world.instantiateAll forest).2.world = (world.instantiateAll others).2.world := by
  obtain ⟨rows, rfl⟩ := world.exists_eq_ofRows
  obtain ⟨index, log, ran⟩ := Blueprint.makes_rootPlacements forest rows none #[]
  obtain ⟨otherIndex, otherLog, otherRan⟩ := Blueprint.makes_rootPlacements others rows none #[]
  rw [instantiateAll, instantiateAll, ran, otherRan, Blueprint.rootsFrom_alike alike,
    Blueprint.slots_rootPlacements alike]
  exact ⟨rfl, rfl⟩

/-- The same forest but for the order in which stamps were recorded, so that it becomes the same
entities with the same components in any world. -/
structure Blueprint.SameForest (forest others : List Blueprint) : Prop where
  alike : List.Forall₂ (Blueprint.Alike Stamp.Same) forest others
  instantiated : ∀ world : World,
    (world.instantiateAll forest).1 = (world.instantiateAll others).1 ∧
      (world.instantiateAll forest).2.world = (world.instantiateAll others).2.world

end SceneGraph
