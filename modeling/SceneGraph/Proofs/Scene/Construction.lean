import SceneGraph.Proofs.Scene.Standard
import SceneGraph.Proofs.World.Canonical

/-!
Declared components on an entity that lives, and the same in a stamp that is spawned later. The two
ways agree step by step: whether something is registered under a name, whether it accepts the data,
why it does not, and what the entity holds.
-/
namespace SceneGraph

namespace Registry

/-- Records a component in a stamp; false when nothing is registered under the name. -/
def stampWith (registry : Registry) (stamp : Stamp) (name : String) (data : Tree) :
    Stamp × Except ConstructError Bool :=
  match registry.lookup? name with
  | none => (stamp, .ok false)
  | some constructor =>
    let (changed, outcome) := constructor.applyToStamp stamp data
    (changed, outcome.map fun _ => true)

/-- The same for a list of names with data, whatever becomes of each. -/
def stampWithAll (registry : Registry) :
    Stamp → List (String × Tree) → Stamp × List (Except ConstructError Bool)
  | stamp, [] => (stamp, [])
  | stamp, (name, data) :: rest =>
      let (changed, outcome) := registry.stampWith stamp name data
      let (after, outcomes) := registry.stampWithAll changed rest
      (after, outcome :: outcomes)

def constructAll (registry : Registry) (entity : Entity) :
    World → List (String × Tree) → World × List (Except ConstructError Bool)
  | world, [] => (world, [])
  | world, (name, data) :: rest =>
      let (changed, outcome) := registry.construct world entity name data
      let (after, outcomes) := registry.constructAll entity changed rest
      (after, outcome :: outcomes)

end Registry

theorem World.create_eq_spawn (world : World) : world.create = world.spawn .empty := rfl

/-- A component for an entity that was just spawned goes where the stamp would have put it. -/
theorem World.assign_spawn (world : World) {stamp : Stamp} (distinct : stamp.Distinct)
    (component : Component) :
    (world.spawn stamp).2.assign (world.spawn stamp).1 component =
      .ok (world.spawn (stamp.set component)).2 := by
  obtain ⟨rows, rfl⟩ := world.exists_eq_ofRows
  rw [spawn_ofRows, spawn_ofRows, assign_ofRows, Slots.ofStamp_set distinct]

theorem World.fst_spawn (world : World) (stamp : Stamp) : (world.spawn stamp).1 = world.next := rfl

namespace Registry

theorem construct_defaults (world : World) (entity : Entity) (name : String) (data : Tree) :
    defaults.construct world entity name data =
      match Standard.ofKey? name with
      | none => (world, .ok false)
      | some standard =>
        match standard.read data with
        | .error error => (world, .error error)
        | .ok component =>
          match world.assign entity component with
          | .error error => (world, .error (.world error))
          | .ok changed => (changed, .ok true) := by
  unfold construct
  rw [lookup?_defaults]
  cases Standard.ofKey? name with
  | none => rfl
  | some standard =>
    simp only [Option.map_some, Standard.constructor, Constructor.ofReader]
    cases standard.read data with
    | error error => rfl
    | ok component =>
      dsimp only
      cases world.assign entity component <;> rfl

theorem stampWith_defaults (stamp : Stamp) (name : String) (data : Tree) :
    defaults.stampWith stamp name data =
      match Standard.ofKey? name with
      | none => (stamp, .ok false)
      | some standard =>
        match standard.read data with
        | .error error => (stamp, .error error)
        | .ok component => (stamp.set component, .ok true) := by
  unfold stampWith
  rw [lookup?_defaults]
  cases Standard.ofKey? name with
  | none => rfl
  | some standard =>
    simp only [Option.map_some, Standard.constructor, Constructor.ofReader]
    cases standard.read data <;> rfl

theorem distinct_stampWith {stamp : Stamp} (distinct : stamp.Distinct) (name : String)
    (data : Tree) : (defaults.stampWith stamp name data).1.Distinct := by
  rw [stampWith_defaults]
  cases Standard.ofKey? name with
  | none => exact distinct
  | some standard =>
    dsimp only
    cases standard.read data with
    | error error => exact distinct
    | ok component => exact distinct.set component

/-- One component: constructing it on the entity of a stamp is recording it and spawning then. -/
theorem construct_spawn (world : World) {stamp : Stamp} (distinct : stamp.Distinct)
    (name : String) (data : Tree) :
    defaults.construct (world.spawn stamp).2 world.next name data =
      ((world.spawn (defaults.stampWith stamp name data).1).2,
        (defaults.stampWith stamp name data).2) := by
  rw [construct_defaults, stampWith_defaults]
  cases Standard.ofKey? name with
  | none => rfl
  | some standard =>
    dsimp only
    cases standard.read data with
    | error error => rfl
    | ok component =>
      have assigned := world.assign_spawn distinct component
      rw [World.fst_spawn] at assigned
      simp only [assigned]

theorem constructAll_spawn (world : World) (declared : List (String × Tree)) {stamp : Stamp}
    (distinct : stamp.Distinct) :
    defaults.constructAll world.next (world.spawn stamp).2 declared =
      ((world.spawn (defaults.stampWithAll stamp declared).1).2,
        (defaults.stampWithAll stamp declared).2) := by
  induction declared generalizing stamp with
  | nil => rfl
  | cons entry rest ih =>
    obtain ⟨name, data⟩ := entry
    rw [constructAll, stampWithAll, construct_spawn world distinct name data]
    simp only [ih (distinct_stampWith distinct name data)]

/-- Components declared for a new entity one by one, in whatever order and however often, and with
whatever is refused among them, leave the world that a stamp with the same components leaves; each
of them fares on the entity as it does in the stamp. -/
theorem construct_agrees (world : World) (declared : List (String × Tree)) :
    let (entity, created) := world.create
    let (live, outcomes) := defaults.constructAll entity created declared
    let (stamp, stamped) := defaults.stampWithAll .empty declared
    world.spawn stamp = (entity, live) ∧ outcomes = stamped := by
  have bare : Stamp.empty.Distinct := List.nodup_nil
  have agree := constructAll_spawn world declared bare
  rw [World.create_eq_spawn]
  exact ⟨congrArg (Prod.mk world.next) (congrArg Prod.fst agree).symm, congrArg Prod.snd agree⟩

end Registry
end SceneGraph
