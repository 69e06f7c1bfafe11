import SceneGraph.Proofs.Scene.Dump
import SceneGraph.Proofs.Scene.Standard

/-!
Dumps under renumbering. Blueprints name no entity, so the entities of a blueprint that is
instantiated further behind are the same up to the distance. Their ids show in three places of a
dump: as the entity's own, as its parent and in its list of children.
-/
namespace SceneGraph

def Entity.shift (distance : Nat) (entity : Entity) : Entity := ⟨entity.id + distance⟩

namespace Component

/-- The component with the entities in it renumbered. -/
def shift (distance : Nat) : Component → Component
  | parent value => parent (value.shift distance)
  | children value => children (value.map (Entity.shift distance))
  | transform value => transform value
  | timeScale value => timeScale value
  | name value => name value
  | custom type content => custom type content

variable (distance : Nat) (component : Component)

theorem type_shift : (component.shift distance).type = component.type := by
  cases component <;> rfl

theorem id_shift : (component.shift distance).id = component.id :=
  congrArg ComponentType.id (type_shift distance component)

theorem typeName_shift : (component.shift distance).typeName = component.typeName :=
  congrArg ComponentType.typeName (type_shift distance component)

variable {component}

theorem shift_of_type
    (type : component.type = .name ∨ ∃ standard : Standard, component.type = standard.type) :
    component.shift distance = component := by
  cases component with
  | parent value =>
    rcases type with same | ⟨standard, same⟩
    · cases same
    · cases standard <;> cases same
  | children value =>
    rcases type with same | ⟨standard, same⟩
    · cases same
    · cases standard <;> cases same
  | transform value => rfl
  | timeScale value => rfl
  | name value => rfl
  | custom type content => rfl

/-- Not one of an application's own. -/
def BuiltIn (component : Component) : Prop := ∀ type, component.type ≠ .custom type

end Component

namespace Json

def shiftId (distance : Nat) : Json → Json
  | number (.integer value) => number (.integer (value + distance))
  | other => other

/-- A component in a dump: the parent's id and the children's ids are renumbered. -/
def shiftComponent (distance : Nat) : String × Json → String × Json
  | ("Parent", object [("parent", id)]) => ("Parent", object [("parent", id.shiftId distance)])
  | ("Children", object [("children", array ids)]) =>
      ("Children", object [("children", array (ids.map (shiftId distance)))])
  | other => other

/-- A dump with all entity ids in it increased. -/
def translate (distance : Nat) : Json → Json
  | object [("entity", id), ("components", object members), ("children", array dumps)] =>
      object [("entity", id.shiftId distance),
        ("components", object (members.map (shiftComponent distance))),
        ("children", array (dumps.map fun dump => dump.translate distance))]
  | other => other

theorem translate_dump (distance : Nat) (id : Json) (members : List (String × Json))
    (dumps : List Json) :
    translate distance (object [("entity", id), ("components", object members),
      ("children", array dumps)]) =
      object [("entity", id.shiftId distance),
        ("components", object (members.map (shiftComponent distance))),
        ("children", array (dumps.map (translate distance)))] := by
  rw [translate]

theorem shiftId_natural (distance number : Nat) :
    (natural number).shiftId distance = natural (number + distance) := by
  simp [natural, shiftId]

end Json

namespace Slots
variable (distance : Nat)

def shift (slots : Slots) : Slots := ⟨slots.components.map (Component.shift distance)⟩

theorem place_shift (component : Component) (components : List Component) :
    (place component components).map (Component.shift distance) =
      place (component.shift distance) (components.map (Component.shift distance)) := by
  induction components with
  | nil => rfl
  | cons first rest ih =>
    simp only [place, List.map_cons, Component.id_shift]
    split
    · rfl
    · split
      · rfl
      · rw [List.map_cons, ih]

theorem shift_insert (slots : Slots) (component : Component) :
    (slots.insert component).shift distance =
      (slots.shift distance).insert (component.shift distance) :=
  congrArg Slots.mk (place_shift distance component slots.components)

theorem has_shift (slots : Slots) (type : ComponentType) :
    (slots.shift distance).has type = slots.has type := by
  obtain ⟨components⟩ := slots
  unfold has find? shift
  rw [List.find?_map, Option.isSome_map]
  simp only [Function.comp_def, Component.id_shift]

theorem shift_timed (slots : Slots) :
    slots.timed.shift distance = (slots.shift distance).timed := by
  unfold timed
  rw [has_shift]
  split
  · rfl
  · exact shift_insert distance slots _

theorem shift_ofStamp {stamp : Stamp} (plain : stamp.Plain) :
    (ofStamp stamp).shift distance = ofStamp stamp := by
  obtain ⟨components⟩ := stamp
  unfold ofStamp
  induction components using List.reverseRecOn with
  | nil => rfl
  | append_singleton earlier component ih =>
    have before : Stamp.Plain ⟨earlier⟩ :=
      fun other member => plain other (List.mem_append_left _ member)
    have own : component.shift distance = component := by
      refine Component.shift_of_type distance (plain component ?_)
      exact List.mem_append_right _ List.mem_cons_self
    rw [List.foldl_append, List.foldl_cons, List.foldl_nil, shift_insert, own]
    exact congrArg (fun slots => slots.insert component) (ih before)

theorem placeByName_shift (component : Component) (components : List Component) :
    (placeByName component components).map (Component.shift distance) =
      placeByName (component.shift distance) (components.map (Component.shift distance)) := by
  induction components with
  | nil => rfl
  | cons first rest ih =>
    simp only [placeByName, List.map_cons, Component.typeName_shift]
    split
    · rfl
    · rw [List.map_cons, ih]

theorem byName_shift (slots : Slots) :
    (slots.shift distance).byName = slots.byName.map (Component.shift distance) := by
  obtain ⟨components⟩ := slots
  unfold byName shift
  induction components with
  | nil => rfl
  | cons first rest ih =>
    simp only [List.map_cons, sortByName] at ih ⊢
    rw [ih, placeByName_shift]

end Slots
theorem Component.toJson_shift {component : Component} (builtIn : component.BuiltIn)
    (distance : Nat) : ∃ value shifted, component.toJson = .ok value ∧
      (component.shift distance).toJson = .ok shifted ∧
      Json.shiftComponent distance (component.typeName, value) =
        (component.typeName, shifted) := by
  cases component with
  | parent value =>
    refine ⟨_, _, rfl, rfl, ?_⟩
    change ("Parent", Json.object [("parent", (Json.natural value.id).shiftId distance)]) = _
    rw [Json.shiftId_natural]
    rfl
  | children value =>
    refine ⟨_, _, rfl, rfl, ?_⟩
    have ids : (value.map fun child => Json.natural child.id).map (Json.shiftId distance) =
        (value.map (Entity.shift distance)).map fun child => Json.natural child.id := by
      rw [List.map_map, List.map_map]
      exact List.map_congr_left fun child _ => Json.shiftId_natural distance child.id
    change ("Children", Json.object [("children", .array (List.map _ _))]) = _
    rw [ids]
    rfl
  | transform value => exact ⟨_, _, rfl, rfl, rfl⟩
  | timeScale value => exact ⟨_, _, rfl, rfl, rfl⟩
  | name value => exact ⟨_, _, rfl, rfl, rfl⟩
  | custom type content => exact absurd rfl (builtIn type)

theorem World.snapshotMembers_shift {components : List Component}
    (builtIn : ∀ component ∈ components, component.BuiltIn) (entity other : Entity)
    (distance : Nat) :
    ∃ members, snapshotMembers entity components = .ok members ∧
      snapshotMembers other (components.map (Component.shift distance)) =
        .ok (members.map (Json.shiftComponent distance)) := by
  induction components with
  | nil => exact ⟨[], rfl, rfl⟩
  | cons component rest ih =>
    obtain ⟨own, later⟩ := List.forall_mem_cons.mp builtIn
    obtain ⟨value, shifted, shown, shownThere, same⟩ := Component.toJson_shift own distance
    obtain ⟨members, all, allThere⟩ := ih later
    refine ⟨(component.typeName, value) :: members, ?_, ?_⟩
    · rw [snapshotMembers, shown, all]
      rfl
    · rw [List.map_cons, snapshotMembers, shownThere, allThere, Component.typeName_shift,
        List.map_cons, same]
      rfl

theorem Blueprint.rootsFrom_shift (first distance : Nat) (blueprints : List Blueprint) :
    rootsFrom (first + distance) blueprints =
      (rootsFrom first blueprints).map (Entity.shift distance) := by
  induction blueprints generalizing first with
  | nil => rfl
  | cons blueprint blueprints ih =>
    rw [rootsFrom, rootsFrom, List.map_cons, ← ih, Nat.add_right_comm]
    rfl

namespace Placement

def shift (distance : Nat) (placement : Placement) : Placement :=
  ⟨placement.blueprint, placement.entity.shift distance,
    placement.parent.map (Entity.shift distance)⟩

variable {placement : Placement} (plain : placement.blueprint.stamp.Plain)
include plain

theorem builtIn_of_component? {id : TypeId} {component : Component}
    (held : placement.component? id = some component) : component.BuiltIn := by
  intro custom type
  unfold component? at held
  split at held
  · obtain ⟨parent, _, rfl⟩ := Option.map_eq_some_iff.mp held
    cases type
  · split at held
    · cases held
      cases type
    · split at held
      · cases held
        cases type
      · have listed : component ∈ placement.blueprint.stamp.components :=
          List.mem_reverse.mp (List.mem_of_find?_eq_some held)
        rcases plain component listed with same | ⟨standard, same⟩
        · cases same.symm.trans type
        · cases standard <;> cases same.symm.trans type

theorem slots_shift (distance : Nat) :
    (placement.shift distance).slots = placement.slots.shift distance := by
  have children : (placement.shift distance).children =
      placement.children.map (Entity.shift distance) := by
    unfold Placement.children
    rw [← Blueprint.rootsFrom_shift, Nat.add_right_comm]
    rfl
  have own : (Slots.ofStamp placement.blueprint.stamp).timed.shift distance =
      (Slots.ofStamp placement.blueprint.stamp).timed := by
    rw [Slots.shift_timed, Slots.shift_ofStamp distance plain]
  have listed : ((Slots.ofStamp placement.blueprint.stamp).timed.insert
      (.children placement.children)).shift distance =
        (Slots.ofStamp placement.blueprint.stamp).timed.insert
          (.children (placement.shift distance).children) := by
    rw [Slots.shift_insert, own, children]
    rfl
  obtain ⟨blueprint, entity, parent⟩ := placement
  cases parent with
  | none => exact listed.symm
  | some parent =>
    refine Eq.trans ?_ (Slots.shift_insert distance _ (.parent parent)).symm
    exact congrArg (fun slots => slots.insert (.parent (parent.shift distance))) listed.symm

end Placement

namespace Blueprint

mutual

/-- The dump of a blueprint of a standard build, which always has one, further behind. -/
theorem mirror_shift (distance : Nat) (parent : Option Entity) (first : Nat) :
    ∀ {blueprint : Blueprint}, blueprint.Every Stamp.Plain →
      ∃ dump, blueprint.mirror parent first = .ok dump ∧
        blueprint.mirror (parent.map (Entity.shift distance)) (first + distance) =
          .ok (dump.translate distance)
  | ⟨stamp, children⟩, every => by
      obtain ⟨own, below⟩ : stamp.Plain ∧ ∀ child ∈ children, child.Every Stamp.Plain := by
        cases every with
        | intro own below => exact ⟨own, below⟩
      obtain ⟨dumps, mirrored, mirroredThere⟩ :=
        mirrorForest_shift distance ⟨first⟩ (first + 1) below
      let placement : Placement := ⟨⟨stamp, children⟩, ⟨first⟩, parent⟩
      obtain ⟨members, shown, shownThere⟩ := World.snapshotMembers_shift
        (fun component listed => placement.builtIn_of_component? own
          (Placement.mem_byName.mp listed)) ⟨first⟩ ⟨first + distance⟩ distance
      rw [← Slots.byName_shift, ← placement.slots_shift own] at shownThere
      refine ⟨.object [("entity", .natural first), ("components", .object members),
        ("children", .array dumps)], ?_, ?_⟩
      · rw [mirror, shown, mirrored]
        rfl
      · have here : Placement.mk ⟨stamp, children⟩ ⟨first + distance⟩
            (parent.map (Entity.shift distance)) = placement.shift distance := rfl
        have below : mirrorForest ⟨first + distance⟩ (first + distance + 1) children =
            .ok (dumps.map (Json.translate distance)) := by
          rw [Nat.add_right_comm]
          exact mirroredThere
        rw [mirror, here, shownThere, below, Json.translate_dump, Json.shiftId_natural]
        rfl

theorem mirrorForest_shift (distance : Nat) (parent : Entity) (first : Nat) :
    ∀ {blueprints : List Blueprint}, (∀ blueprint ∈ blueprints, blueprint.Every Stamp.Plain) →
      ∃ dumps, mirrorForest parent first blueprints = .ok dumps ∧
        mirrorForest (parent.shift distance) (first + distance) blueprints =
          .ok (dumps.map (Json.translate distance))
  | [], _ => by
      rw [mirrorForest, mirrorForest]
      exact ⟨[], rfl, rfl⟩
  | blueprint :: blueprints, every => by
      obtain ⟨own, later⟩ := List.forall_mem_cons.mp every
      obtain ⟨dump, mirrored, mirroredThere⟩ := mirror_shift distance (some parent) first own
      obtain ⟨dumps, rest, restThere⟩ :=
        mirrorForest_shift distance parent (first + blueprint.entityCount) later
      refine ⟨dump :: dumps, ?_, ?_⟩
      · rw [mirrorForest, mirrored, rest]
        rfl
      · rw [mirrorForest, Nat.add_right_comm, restThere]
        rw [Option.map_some] at mirroredThere
        rw [mirroredThere]
        rfl

end

end Blueprint
end SceneGraph
