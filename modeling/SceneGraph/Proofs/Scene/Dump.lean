import SceneGraph.Proofs.Scene.Growth
import SceneGraph.Proofs.World.Snapshot

/-!
Dumps of what was instantiated. A dump follows the lists of children in the world; where a blueprint
was instantiated these lead through its entities in the blueprint's own order, so the dump is read
off the blueprint and the number of its root, whatever else the world holds.
-/
namespace SceneGraph

namespace Placement

/-- The components of an entity in a dump: those with a JSON form, all of them, in the order of the
bytes of their names. -/
structure Shows (placement : Placement) (members : List (String × Json)) : Prop where
  ascending : members.Pairwise fun first second => Text.bytes first.1 < Text.bytes second.1
  mem_iff : ∀ name value, (name, value) ∈ members ↔ ∃ id component,
    placement.component? id = some component ∧ component.typeName = name ∧
      component.toJson = .ok value

def Serialises (placement : Placement) : Prop :=
  ∀ id component, placement.component? id = some component →
    ∃ value, component.toJson = .ok value

/-- The fault of an entity: that of its component without a JSON form of the smallest name. -/
def Refuses (placement : Placement) (error : WorldError) : Prop :=
  ∃ id component reason, placement.component? id = some component ∧
    component.toJson = .error reason ∧
    error = .unserialisable placement.entity component.typeName reason ∧
    ∀ otherId other, placement.component? otherId = some other →
      (∃ otherReason, other.toJson = .error otherReason) →
        ¬ Text.bytes other.typeName < Text.bytes component.typeName

/-- The fault of the first entity that has one. -/
def FirstRefused (placements : List Placement) (error : WorldError) : Prop :=
  ∃ before refused after, placements = before ++ refused :: after ∧
    (∀ placement ∈ before, placement.Serialises) ∧ refused.Refuses error

theorem ordered_slots (placement : Placement) : placement.slots.Ordered := by
  have own := (Slots.ordered_ofStamp placement.blueprint.stamp).timed.insert
    (.children placement.children)
  unfold slots
  cases placement.parent with
  | none => exact own
  | some parent => exact own.insert _

variable {placement : Placement}

theorem mem_byName {component : Component} :
    component ∈ placement.slots.byName ↔ placement.component? component.id = some component := by
  rw [placement.ordered_slots.mem_byName, placement.find?_slots]

theorem shows_snapshot {members : List (String × Json)}
    (shown : World.snapshotMembers placement.entity placement.slots.byName = .ok members) :
    placement.Shows members ∧ placement.Serialises := by
  obtain ⟨shows, serialises⟩ := placement.ordered_slots.shows shown
  have listed := shows.mem_iff
  unfold Slots.Serialises at serialises
  simp only [find?_slots] at listed serialises
  exact ⟨⟨shows.ascending, listed⟩, serialises⟩

theorem refuses_snapshot {error : WorldError}
    (failed : World.snapshotMembers placement.entity placement.slots.byName = .error error) :
    placement.Refuses error := by
  have refuses := placement.ordered_slots.refuses failed
  unfold Slots.Refuses at refuses
  simp only [find?_slots] at refuses
  exact refuses

theorem FirstRefused.not_serialises {placements : List Placement} {error : WorldError}
    (first : FirstRefused placements error) :
    ¬ ∀ placement ∈ placements, placement.Serialises := by
  obtain ⟨before, refused, after, rfl, _, id, component, reason, held, why, _⟩ := first
  intro all
  obtain ⟨value, serialised⟩ := all refused (by simp) id component held
  cases serialised.symm.trans why

theorem FirstRefused.append {placements : List Placement} {error : WorldError}
    (first : FirstRefused placements error) (others : List Placement) :
    FirstRefused (placements ++ others) error := by
  obtain ⟨before, refused, after, rfl, fine, refuses⟩ := first
  refine ⟨before, refused, after ++ others, ?_, fine, refuses⟩
  rw [List.append_assoc, List.cons_append]

theorem FirstRefused.behind {placements others : List Placement} {error : WorldError}
    (fine : ∀ placement ∈ placements, placement.Serialises) (first : FirstRefused others error) :
    FirstRefused (placements ++ others) error := by
  obtain ⟨before, refused, after, rfl, earlier, refuses⟩ := first
  refine ⟨placements ++ before, refused, after, (List.append_assoc _ _ _).symm, ?_, refuses⟩
  exact List.forall_mem_append.mpr ⟨fine, earlier⟩

end Placement

namespace Blueprint
open World

mutual

/-- The dump of a blueprint whose entities are numbered from `first` on. -/
def mirror (parent : Option Entity) (first : Nat) : Blueprint → Except WorldError Json
  | ⟨stamp, children⟩ => do
      let members ← snapshotMembers ⟨first⟩
        (Placement.slots ⟨⟨stamp, children⟩, ⟨first⟩, parent⟩).byName
      let dumps ← mirrorForest ⟨first⟩ (first + 1) children
      return .object [("entity", .natural first), ("components", .object members),
        ("children", .array dumps)]

def mirrorForest (parent : Entity) (first : Nat) :
    List Blueprint → Except WorldError (List Json)
  | [] => return []
  | blueprint :: blueprints => do
      let dump ← mirror (some parent) first blueprint
      let dumps ← mirrorForest parent (first + blueprint.entityCount) blueprints
      return dump :: dumps

end

mutual

/-- A dump has the blueprint's shape and shows the entities numbered in preorder. -/
inductive Mirrors : (parent : Option Entity) → (first : Nat) → Blueprint → Json → Prop
  | intro {parent : Option Entity} {first : Nat} {stamp : Stamp} {children : List Blueprint}
      {members : List (String × Json)} {dumps : List Json}
      (shown : Placement.Shows ⟨⟨stamp, children⟩, ⟨first⟩, parent⟩ members)
      (below : ForestMirrors ⟨first⟩ (first + 1) children dumps) :
      Mirrors parent first ⟨stamp, children⟩
        (.object [("entity", .natural first), ("components", .object members),
          ("children", .array dumps)])

inductive ForestMirrors : (parent : Entity) → (first : Nat) → List Blueprint → List Json → Prop
  | nil (parent : Entity) (first : Nat) : ForestMirrors parent first [] []
  | cons {parent : Entity} {first : Nat} {blueprint : Blueprint} {blueprints : List Blueprint}
      {dump : Json} {dumps : List Json} (own : Mirrors (some parent) first blueprint dump)
      (rest : ForestMirrors parent (first + blueprint.entityCount) blueprints dumps) :
      ForestMirrors parent first (blueprint :: blueprints) (dump :: dumps)

end

mutual

theorem mirror_ok (parent : Option Entity) (first : Nat) :
    ∀ (blueprint : Blueprint) {dump : Json}, blueprint.mirror parent first = .ok dump →
      blueprint.Mirrors parent first dump ∧
        ∀ placement ∈ blueprint.placements parent first, placement.Serialises
  | ⟨stamp, children⟩, dump, mirrored => by
      rw [mirror] at mirrored
      obtain ⟨members, shown, mirrored⟩ := bind_ok mirrored
      obtain ⟨dumps, below, mirrored⟩ := bind_ok mirrored
      cases mirrored
      let placement : Placement := ⟨⟨stamp, children⟩, ⟨first⟩, parent⟩
      obtain ⟨shows, own⟩ : placement.Shows members ∧ placement.Serialises :=
        Placement.shows_snapshot shown
      obtain ⟨mirrors, fine⟩ := mirrorForest_ok _ _ children below
      rw [placements]
      exact ⟨.intro shows mirrors, List.forall_mem_cons.mpr ⟨own, fine⟩⟩

theorem mirrorForest_ok (parent : Entity) (first : Nat) :
    ∀ (blueprints : List Blueprint) {dumps : List Json},
      mirrorForest parent first blueprints = .ok dumps →
      ForestMirrors parent first blueprints dumps ∧
        ∀ placement ∈ forestPlacements parent first blueprints, placement.Serialises
  | [], dumps, mirrored => by
      rw [mirrorForest] at mirrored
      cases mirrored
      rw [forestPlacements]
      exact ⟨.nil parent first, List.forall_mem_nil _⟩
  | blueprint :: blueprints, dumps, mirrored => by
      rw [mirrorForest] at mirrored
      obtain ⟨dump, own, mirrored⟩ := bind_ok mirrored
      obtain ⟨others, rest, mirrored⟩ := bind_ok mirrored
      cases mirrored
      obtain ⟨mirrors, fine⟩ := mirror_ok _ _ blueprint own
      obtain ⟨later, fineLater⟩ := mirrorForest_ok _ _ blueprints rest
      rw [forestPlacements]
      exact ⟨.cons mirrors later, List.forall_mem_append.mpr ⟨fine, fineLater⟩⟩

end

mutual

theorem mirror_error (parent : Option Entity) (first : Nat) :
    ∀ (blueprint : Blueprint) {error : WorldError}, blueprint.mirror parent first = .error error →
      Placement.FirstRefused (blueprint.placements parent first) error
  | ⟨stamp, children⟩, error, failed => by
      rw [mirror] at failed
      rw [placements]
      let own : Placement := ⟨⟨stamp, children⟩, ⟨first⟩, parent⟩
      rcases bind_error failed with refused | ⟨members, shown, failed⟩
      · exact ⟨[], own, _, rfl, List.forall_mem_nil _, Placement.refuses_snapshot refused⟩
      · have fine : ∀ placement ∈ [own], placement.Serialises :=
          List.forall_mem_singleton.mpr (Placement.shows_snapshot shown).2
        rcases bind_error failed with below | ⟨_, _, done⟩
        · exact (mirrorForest_error _ _ children below).behind fine
        · cases done

theorem mirrorForest_error (parent : Entity) (first : Nat) :
    ∀ (blueprints : List Blueprint) {error : WorldError},
      mirrorForest parent first blueprints = .error error →
      Placement.FirstRefused (forestPlacements parent first blueprints) error
  | [], error, failed => by
      rw [mirrorForest] at failed
      cases failed
  | blueprint :: blueprints, error, failed => by
      rw [mirrorForest] at failed
      rw [forestPlacements]
      rcases bind_error failed with own | ⟨dump, own, failed⟩
      · exact (mirror_error _ _ blueprint own).append _
      · rcases bind_error failed with rest | ⟨_, _, done⟩
        · exact (mirrorForest_error _ _ blueprints rest).behind (mirror_ok _ _ blueprint own).2
        · cases done

end

mutual

/-- Any number of levels that the blueprint does not exceed gives the same dump. -/
theorem dumpWithin_mirror {world : World} (parent : Option Entity) (first : Nat) :
    ∀ (blueprint : Blueprint) {levels : Nat}, world.Holds (blueprint.placements parent first) →
      blueprint.height ≤ levels →
      world.dumpWithin levels ⟨first⟩ = (blueprint.mirror parent first).mapError .world
  | ⟨stamp, children⟩, 0, _, enough => by
      rw [height] at enough
      omega
  | ⟨stamp, children⟩, levels + 1, holds, enough => by
      rw [height, Nat.add_comm, Nat.add_le_add_iff_right] at enough
      rw [placements] at holds
      obtain ⟨own, later⟩ := List.forall_mem_cons.mp holds
      have below := mapM_dumpWithin ⟨first⟩ (first + 1) children later enough
      have listed : world.childrenOf ⟨first⟩ = rootsFrom (first + 1) children :=
        childrenOf_placement own
      rw [dumpWithin, snapshot_of_slots own, listed, mirror]
      cases snapshotMembers ⟨first⟩
        (Placement.slots ⟨⟨stamp, children⟩, ⟨first⟩, parent⟩).byName with
      | error error => rfl
      | ok members =>
        dsimp only [Except.map]
        rw [below]
        cases mirrorForest ⟨first⟩ (first + 1) children <;> rfl

theorem mapM_dumpWithin {world : World} (parent : Entity) (first : Nat) :
    ∀ (blueprints : List Blueprint) {levels : Nat},
      world.Holds (forestPlacements parent first blueprints) → forestHeight blueprints ≤ levels →
      (rootsFrom first blueprints).mapM (world.dumpWithin levels) =
        (mirrorForest parent first blueprints).mapError .world
  | [], levels, _, _ => by
      rw [rootsFrom, mirrorForest]
      rfl
  | blueprint :: blueprints, levels, holds, enough => by
      rw [forestHeight, Nat.max_le] at enough
      rw [forestPlacements] at holds
      obtain ⟨own, later⟩ := List.forall_mem_append.mp holds
      rw [rootsFrom, mirrorForest, List.mapM_cons,
        dumpWithin_mirror (some parent) first blueprint own enough.1,
        mapM_dumpWithin parent _ blueprints later enough.2]
      cases blueprint.mirror (some parent) first with
      | error error => rfl
      | ok dump =>
        cases mirrorForest parent (first + blueprint.entityCount) blueprints <;> rfl

end

mutual

theorem height_le_entityCount : ∀ blueprint : Blueprint, blueprint.height ≤ blueprint.entityCount
  | ⟨stamp, children⟩ => by
      rw [height, entityCount]
      exact Nat.add_le_add_left (forestHeight_le_forestCount children) 1

theorem forestHeight_le_forestCount :
    ∀ blueprints : List Blueprint, forestHeight blueprints ≤ forestCount blueprints
  | [] => Nat.le_refl _
  | blueprint :: blueprints => by
      have own := height_le_entityCount blueprint
      have rest := forestHeight_le_forestCount blueprints
      rw [forestHeight, forestCount]
      omega

end

end Blueprint

/-- What a blueprint becomes in any world has the same dump at once and after further
instantiations, and without a bound on depth: the dump that mirrors the blueprint if every component
has a JSON form, else the fault of the first entity in preorder that has one. -/
theorem World.dump_instantiated (world : World) (blueprint : Blueprint) :
    ∃ root after, world.instantiate blueprint = (.ok root, after) ∧
      ∀ calls, let later := Instantiation.runAll after.world calls
        later.dump root = after.world.dump root ∧
        (∀ levels, blueprint.height ≤ levels → later.dumpWithin levels root = later.dump root) ∧
        let placements := blueprint.placements none world.next.id
        ((∀ placement ∈ placements, placement.Serialises) →
          ∃ dump, later.dump root = .ok dump ∧ blueprint.Mirrors none world.next.id dump) ∧
        ((∃ placement ∈ placements, ¬ placement.Serialises) →
          ∃ error, later.dump root = .error (.world error) ∧
            Placement.FirstRefused placements error) := by
  obtain ⟨rows, rfl⟩ := world.exists_eq_ofRows
  obtain ⟨index, log, ran⟩ := blueprint.makes_placements rows none #[]
  refine ⟨_, _, ran, fun calls => ?_⟩
  obtain ⟨made, grown⟩ := Instantiation.runAll_ofRows calls
    (rows ++ (blueprint.placements none (rows.length + 1)).map Placement.slots)
  -- The later entities stand behind those of the blueprint, which its dump does not leave.
  have mirrored : ∀ later levels, blueprint.height ≤ levels →
      (ofRows (rows ++ (blueprint.placements none (rows.length + 1)).map Placement.slots ++
        later)).dumpWithin levels ⟨rows.length + 1⟩ =
        (blueprint.mirror none (rows.length + 1)).mapError .world :=
    fun later levels enough => blueprint.dumpWithin_mirror none _
      (holds_ofRows (blueprint.entities_placements none _) later) enough
  have dumped : ∀ later,
      (ofRows (rows ++ (blueprint.placements none (rows.length + 1)).map Placement.slots ++
        later)).dump ⟨rows.length + 1⟩ =
        (blueprint.mirror none (rows.length + 1)).mapError .world := by
    intro later
    refine mirrored later _ (Nat.le_trans blueprint.height_le_entityCount ?_)
    rw [size_ofRows, List.length_append, List.length_append, List.length_map,
      Blueprint.length_placements]
    omega
  have now := dumped []
  rw [List.append_nil] at now
  intro later
  rw [show later = ofRows _ from grown, now, dumped made]
  refine ⟨rfl, fun levels enough => mirrored made levels enough, ?_⟩
  cases result : blueprint.mirror none (rows.length + 1) with
  | ok dump =>
    obtain ⟨mirrors, fine⟩ := blueprint.mirror_ok none _ result
    refine ⟨fun _ => ⟨dump, rfl, mirrors⟩, ?_⟩
    rintro ⟨placement, member, fails⟩
    exact absurd (fine placement member) fails
  | error error =>
    have first := blueprint.mirror_error none _ result
    exact ⟨fun all => absurd all first.not_serialises, fun _ => ⟨error, rfl, first⟩⟩

namespace Sample

/-- A clock that goes at half the pace, with a pendulum that hangs below it. -/
def clock : Blueprint :=
  ⟨⟨[.timeScale ⟨0.5⟩, .name "clock"]⟩,
    [⟨⟨[.transform ⟨⟨0.0, -1.5, 0.0⟩, .zero, .one⟩]⟩, []⟩]⟩

def numbers (x y z : Float) : Json :=
  .array [.number (.double x), .number (.double y), .number (.double z)]

end Sample

/-- Components stand in the order of their names, with their fields in the order of declaration. -/
example : (World.empty.instantiate Sample.clock).2.world.dump ⟨1⟩ = .ok (.object
    [("entity", .natural 1),
      ("components", .object
        [("Children", .object [("children", .array [.natural 2])]),
          ("Name", .object [("name", .string "clock")]),
          ("TimeScale", .object [("scale", .number (.double 0.5))])]),
      ("children", .array [.object
        [("entity", .natural 2),
          ("components", .object
            [("Children", .object [("children", .array [])]),
              ("Parent", .object [("parent", .natural 1)]),
              ("TimeScale", .object [("scale", .number (.double 1.0))]),
              ("Transform", .object
                [("position", Sample.numbers 0.0 (-1.5) 0.0), ("rotation", Sample.numbers 0.0 0.0 0.0),
                  ("scale", Sample.numbers 1.0 1.0 1.0)])]),
          ("children", .array [])]])]) :=
  rfl

end SceneGraph
