import SceneGraph.Proofs.Scene.Placements

/-!
Calls that instantiate, with an index or without: what is in a world is not looked at, and the new
entities stand behind those that exist. So any sequence of calls only adds entities.
-/
namespace SceneGraph

namespace Blueprint
open Populate

theorem makes_rootPlacements (blueprints : List Blueprint) (rows : List Slots) :
    Makes (instantiateAll blueprints) rows (rootsFrom (rows.length + 1) blueprints)
      (rows ++ (rootPlacements (rows.length + 1) blueprints).map Placement.slots) := by
  induction blueprints generalizing rows with
  | nil =>
    rw [instantiateAll, List.mapM_nil, rootPlacements, List.map_nil, List.append_nil]
    exact .pure []
  | cons blueprint blueprints ih =>
    have rest := ih (rows ++ (blueprint.placements none (rows.length + 1)).map Placement.slots)
    rw [List.length_append, List.length_map, length_placements, List.append_assoc,
      ← List.map_append, Nat.add_right_comm] at rest
    rw [instantiateAll, List.mapM_cons, rootsFrom, rootPlacements]
    exact .bind (blueprint.makes_placements rows) (.bind rest (.pure _))

end Blueprint

theorem Placement.component?_children (placement : Placement) :
    placement.component? ComponentType.children.id = some (.children placement.children) := by
  have apart : ComponentType.children.id ≠ ComponentType.parent.id := by decide
  simp [component?, apart]

namespace World

/-- The entities of the placements hold what the placements say. -/
def Holds (world : World) (placements : List Placement) : Prop :=
  ∀ placement ∈ placements, world.slots? placement.entity = some placement.slots

theorem childrenOf_placement {world : World} {entity : Entity} {placement : Placement}
    (found : world.slots? entity = some placement.slots) :
    world.childrenOf entity = placement.children := by
  rw [childrenOf, get?, found, Option.bind_some, Slots.get?, placement.find?_slots,
    placement.component?_children]
  rfl

theorem holds_ofRows {rows : List Slots} {placements : List Placement} {count : Nat}
    (numbered : placements.map Placement.entity =
      (List.range' (rows.length + 1) count).map Entity.mk) (later : List Slots) :
    (ofRows (rows ++ placements.map Placement.slots ++ later)).Holds placements := by
  intro placement member
  obtain ⟨index, bound, rfl⟩ := List.mem_iff_getElem.mp member
  have named : (placements.map Placement.entity)[index]? = some placements[index].entity := by
    simp [bound]
  have count_eq : placements.length = count := by
    simpa using congrArg List.length numbered
  rw [numbered, List.getElem?_map, List.getElem?_range' (by omega)] at named
  rw [← Option.some.inj named, Nat.one_mul, Nat.add_right_comm, slots?_ofRows,
    List.append_assoc, List.getElem?_append_right (Nat.le_add_right _ _), Nat.add_sub_cancel_left,
    List.getElem?_append_left (by simpa using bound), List.getElem?_map,
    List.getElem?_eq_getElem bound]
  rfl

/-- The world with these rows and the entities of a forest behind them. -/
def grown (rows : List Slots) (blueprints : List Blueprint) : World :=
  .ofRows (rows ++
    (Blueprint.rootPlacements (rows.length + 1) blueprints).map Placement.slots)

theorem grown_append (rows : List Slots) (blueprints others : List Blueprint) :
    grown (rows ++ (Blueprint.rootPlacements (rows.length + 1) blueprints).map Placement.slots)
      others = grown rows (blueprints ++ others) := by
  rw [grown, grown, List.length_append, List.length_map, Blueprint.length_rootPlacements,
    Nat.add_right_comm, List.append_assoc, ← List.map_append, ← Blueprint.rootPlacements_append]

section Grown
variable {rows : List Slots} {blueprints : List Blueprint}

theorem holds_grown : (grown rows blueprints).Holds
    (Blueprint.rootPlacements (rows.length + 1) blueprints) := by
  have held := holds_ofRows (Blueprint.entities_rootPlacements (rows.length + 1) blueprints) []
  rw [List.append_nil] at held
  exact held

theorem exists_placement_iff {entity : Entity} :
    (∃ placement ∈ Blueprint.rootPlacements (rows.length + 1) blueprints,
      placement.entity = entity) ↔
      ¬ (ofRows rows).contains entity ∧ (grown rows blueprints).contains entity := by
  obtain ⟨number⟩ := entity
  rw [← List.mem_map, Blueprint.entities_rootPlacements, grown, contains_ofRows, contains_ofRows,
    List.length_append, List.length_map, Blueprint.length_rootPlacements]
  simp only [List.mem_map, List.mem_range'_1, Entity.mk.injEq, exists_eq_right]
  omega

end Grown
end World

/-- A call that instantiates blueprints, with the index that it is given, if any. -/
inductive Instantiation where
  | one (index : Option EntityIndex) (blueprint : Blueprint)
  | all (index : Option EntityIndex) (blueprints : List Blueprint)

namespace Instantiation

def blueprints : Instantiation → List Blueprint
  | one _ blueprint => [blueprint]
  | all _ blueprints => blueprints

/-- The world after a call and the roots that it returns. -/
def run (world : World) : Instantiation → World × List Entity
  | one none blueprint =>
      let (outcome, after) := world.instantiate blueprint
      (after.world, outcome.toOption.toList)
  | one (some index) blueprint =>
      let (outcome, after) := world.instantiateIndexed index blueprint
      (after.world, outcome.toOption.toList)
  | all none blueprints =>
      let (outcome, after) := world.instantiateAll blueprints
      (after.world, outcome.toOption.getD [])
  | all (some index) blueprints =>
      let (outcome, after) := world.instantiateAllIndexed index blueprints
      (after.world, outcome.toOption.getD [])

theorem run_ofRows (call : Instantiation) (rows : List Slots) :
    call.run (.ofRows rows) =
      (.grown rows call.blueprints, Blueprint.rootsFrom (rows.length + 1) call.blueprints) := by
  unfold World.grown
  cases call with
  | one index blueprint =>
    obtain ⟨_, _, ran⟩ := blueprint.makes_placements rows index #[]
    rw [blueprints, Blueprint.rootPlacements, Blueprint.rootPlacements, List.append_nil]
    cases index with
    | none => simp only [run, World.instantiate, ran]; rfl
    | some index => simp only [run, World.instantiateIndexed, ran]; rfl
  | all index blueprints =>
    obtain ⟨_, _, ran⟩ := Blueprint.makes_rootPlacements blueprints rows index #[]
    cases index with
    | none => simp only [run, World.instantiateAll, ran]; rfl
    | some index => simp only [run, World.instantiateAllIndexed, ran]; rfl

/-- The world after a sequence of calls. -/
def runAll (world : World) (calls : List Instantiation) : World :=
  calls.foldl (fun world call => (call.run world).1) world

theorem runAll_ofRows (calls : List Instantiation) (rows : List Slots) :
    ∃ later, runAll (.ofRows rows) calls = .ofRows (rows ++ later) := by
  induction calls generalizing rows with
  | nil => exact ⟨[], by rw [List.append_nil]; rfl⟩
  | cons call calls ih =>
    obtain ⟨later, ran⟩ := ih (rows ++
      (Blueprint.rootPlacements (rows.length + 1) call.blueprints).map Placement.slots)
    rw [List.append_assoc] at ran
    rw [runAll, List.foldl_cons, run_ofRows]
    exact ⟨_, ran⟩

end Instantiation
end SceneGraph
