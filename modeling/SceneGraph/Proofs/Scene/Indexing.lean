import SceneGraph.Proofs.Execution
import SceneGraph.Scene.Instance

/-!
The index that is kept while entities are made. Which names are recorded depends on the blueprints
alone; a name that is taken keeps its entity, so making the same blueprints once more records
nothing.
-/
namespace SceneGraph

namespace Blueprint

mutual

/-- The declared names from the root down, in the order in which they are recorded. -/
def names : Blueprint → List String
  | ⟨stamp, children⟩ => stamp.name?.toList ++ forestNames children

def forestNames : List Blueprint → List String
  | [] => []
  | blueprint :: blueprints => blueprint.names ++ forestNames blueprints

end

end Blueprint

namespace EntityIndex

theorem contains_record (index : EntityIndex) (name : String) (entity : Entity) :
    (index.record name entity).1.contains name ∧
      ∀ other, index.contains other → (index.record name entity).1.contains other := by
  unfold record
  split
  · rename_i taken
    exact ⟨taken, fun _ held => held⟩
  · have inserted : ∀ other, (index.entities.insert name entity).contains other =
        (compare name other == .eq || index.entities.contains other) :=
      fun other => Std.TreeMap.contains_insert
    refine ⟨?_, fun other held => ?_⟩
    · exact (inserted name).trans (by simp)
    · have kept : index.entities.contains other = true := held
      exact (inserted other).trans (by simp [kept])

end EntityIndex

namespace Populate

/-- Started with an index the program leaves one, which has the names of the first, and those of the
program if it succeeds, and is the first if that has all of them already. -/
def Registers {α : Type} (program : Populate α) (names : List String) : Prop :=
  ∀ (before : Population) (index : EntityIndex), before.index = some index →
    ∃ indexAfter, (program.run.run before).2.index = some indexAfter ∧
      (∀ name, index.contains name → indexAfter.contains name) ∧
      (∀ value, (program.run.run before).1 = .ok value →
        ∀ name ∈ names, indexAfter.contains name) ∧
      ((∀ name ∈ names, index.contains name) → indexAfter = index)

namespace Registers

variable {α β : Type}

/-- Programs that do not look at the index. -/
theorem of_kept {program : Populate α}
    (kept : ∀ before, (program.run.run before).2.index = before.index) :
    Registers program [] :=
  fun before index found =>
    ⟨index, (kept before).trans found, fun _ held => held, by simp, fun _ => rfl⟩

theorem pure (value : α) : Registers (Pure.pure value) [] := of_kept fun _ => rfl

theorem bind {program : Populate α} {next : α → Populate β} {names others : List String}
    (first : Registers program names) (rest : ∀ value, Registers (next value) others) :
    Registers (program >>= next) (names ++ others) := by
  intro before index found
  obtain ⟨middleIndex, middleFound, kept, named, same⟩ := first before index found
  cases ran : program.run.run before with
  | mk outcome middle =>
  rw [ran] at middleFound named
  cases outcome with
  | error error =>
    rw [run_bind_error ran]
    refine ⟨middleIndex, middleFound, kept, ?_, fun all => ?_⟩
    · intro value success
      cases success
    · exact same fun name member => all name (List.mem_append_left _ member)
  | ok value =>
    rw [run_bind_ok ran]
    obtain ⟨indexAfter, finallyFound, laterKept, laterNamed, laterSame⟩ :=
      rest value middle middleIndex middleFound
    refine ⟨indexAfter, finallyFound, fun name held => laterKept name (kept name held), ?_, ?_⟩
    · intro result success name member
      rcases List.mem_append.mp member with inside | inside
      · exact laterKept name (named value rfl name inside)
      · exact laterNamed result success name inside
    · intro all
      have unchanged := same fun name member => all name (List.mem_append_left _ member)
      subst unchanged
      exact laterSame fun name member => all name (List.mem_append_right _ member)

theorem silent {program : Populate α} {next : α → Populate β} {names : List String}
    (first : Registers program []) (rest : ∀ value, Registers (next value) names) :
    Registers (program >>= next) names :=
  first.bind rest

theorem last {program : Populate α} {next : α → Populate β} {names : List String}
    (first : Registers program names) (rest : ∀ value, Registers (next value) []) :
    Registers (program >>= next) names := by
  rw [← List.append_nil names]
  exact first.bind rest

theorem report (events : List Event) : Registers (Populate.report events) [] :=
  of_kept fun _ => rfl

theorem spawn (stamp : Stamp) : Registers (Populate.spawn stamp) [] := of_kept fun _ => rfl

theorem assign (entity : Entity) (component : Component) :
    Registers (Populate.assign entity component) [] := by
  refine of_kept fun before => ?_
  have found : (get : Populate Population).run.run before = (.ok before, before) := rfl
  unfold Populate.assign
  rw [run_bind_ok found]
  cases before.world.assign entity component <;> rfl

theorem ensureTimeScale (entity : Entity) : Registers (Populate.ensureTimeScale entity) [] := by
  intro before
  have found : (get : Populate Population).run.run before = (.ok before, before) := rfl
  unfold Populate.ensureTimeScale
  rw [run_bind_ok found]
  split
  · exact pure () before
  · exact assign entity _ before

theorem record (entity : Entity) (name? : Option String) :
    Registers (Populate.record entity name?) name?.toList := by
  intro before index found
  obtain ⟨world, index?, log⟩ := before
  cases found
  cases name? with
  | none => exact ⟨index, rfl, fun _ held => held, by simp, fun _ => rfl⟩
  | some name =>
    obtain ⟨own, kept⟩ := index.contains_record name entity
    refine ⟨(index.record name entity).1, rfl, kept, ?_, fun all => ?_⟩
    · intro value _ other member
      rw [List.mem_singleton.mp member]
      exact own
    · unfold EntityIndex.record
      rw [if_pos (all name (by simp))]

end Registers
end Populate

namespace Blueprint
open Populate

mutual

theorem registers_names : ∀ blueprint : Blueprint, Registers blueprint.instantiate blueprint.names
  | ⟨stamp, children⟩ => by
      rw [instantiate, names]
      refine .silent (.spawn stamp) fun entity => ?_
      refine .bind (.record entity _) fun _ => ?_
      refine .silent (.ensureTimeScale entity) fun _ => ?_
      refine .last (registers_forestNames children entity) fun entities => ?_
      exact .silent (.report _) fun _ => .silent (.assign entity _) fun _ => .pure entity

theorem registers_forestNames : ∀ (blueprints : List Blueprint) (parent : Entity),
    Registers (instantiateChildren parent blueprints) (forestNames blueprints)
  | [], parent => by
      rw [instantiateChildren, forestNames]
      exact .pure []
  | blueprint :: blueprints, parent => by
      rw [instantiateChildren, forestNames]
      refine .bind (registers_names blueprint) fun entity => ?_
      refine .silent (.assign entity _) fun _ => ?_
      exact .last (registers_forestNames blueprints parent) fun _ => .pure _

end

theorem registers_instantiateAll (blueprints : List Blueprint) :
    Registers (instantiateAll blueprints) (forestNames blueprints) := by
  induction blueprints with
  | nil =>
    rw [instantiateAll, List.mapM_nil, forestNames]
    exact .pure []
  | cons blueprint blueprints ih =>
    rw [instantiateAll, List.mapM_cons, forestNames]
    exact .bind (registers_names blueprint) fun _ => .last ih fun _ => .pure _

end Blueprint
end SceneGraph
