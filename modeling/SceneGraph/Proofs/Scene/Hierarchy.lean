import SceneGraph.Proofs.Scene.Growth
import SceneGraph.Proofs.Scene.Standard

/-!
The hierarchy of a world. Parents are written before the children of their own parents, and lists of
children after all of them, so no entity has its links until the forest around it is finished. A
finished forest is closed under them, and so is whatever worlds grow to by instantiating forests,
creating bare entities and constructing standard components.
-/
namespace SceneGraph

namespace Placement

theorem component?_parent (placement : Placement) (plain : placement.blueprint.stamp.Plain) :
    placement.component? ComponentType.parent.id = placement.parent.map .parent := by
  have children : ComponentType.parent.id ≠ ComponentType.children.id := by decide
  have timeScale : ComponentType.parent.id ≠ ComponentType.timeScale.id := by decide
  have unrecorded : placement.blueprint.stamp.last? ComponentType.parent.id = none := by
    refine plain.last?_eq_none (by decide) fun standard => ?_
    cases standard <;> decide
  cases parent : placement.parent <;> simp [component?, parent, children, timeScale, unrecorded]

end Placement

namespace World

def parentOf? (world : World) (entity : Entity) : Option Entity :=
  (world.get? entity .parent).bind Component.parent?

variable {world after later : World} {entity : Entity} {roots others : List Entity}

section Links
variable {placement : Placement}

theorem has_placement (found : world.slots? entity = some placement.slots)
    (plain : placement.blueprint.stamp.Plain) :
    world.has entity .parent = placement.parent.isSome := by
  rw [has, found, Option.any_some, Slots.has, placement.find?_slots,
    placement.component?_parent plain, Option.isSome_map]

theorem parentOf?_placement (found : world.slots? entity = some placement.slots)
    (plain : placement.blueprint.stamp.Plain) :
    world.parentOf? entity = placement.parent := by
  rw [parentOf?, get?, found, Option.bind_some, Slots.get?, placement.find?_slots,
    placement.component?_parent plain]
  cases placement.parent <;> rfl

/-- The entity has no children and no parent. -/
structure Unlinked (world : World) (entity : Entity) : Prop where
  children : world.childrenOf entity = []
  parent : world.parentOf? entity = none
  filled : world.has entity .parent = false

theorem unlinked_of_unfilled (unfilled : ∀ slots, world.slots? entity = some slots →
    slots = .empty) : world.Unlinked entity := by
  have nothing : ∀ type, world.get? entity type = none ∧ world.has entity type = false := by
    intro type
    rw [get?, has]
    cases found : world.slots? entity with
    | none => exact ⟨rfl, rfl⟩
    | some slots =>
      cases unfilled slots found
      exact ⟨rfl, rfl⟩
  refine ⟨?_, ?_, (nothing .parent).2⟩
  · rw [childrenOf, (nothing .children).1]
    rfl
  · rw [parentOf?, (nothing .parent).1]
    rfl

theorem unlinked_of_absent (absent : ¬ world.contains entity) : world.Unlinked entity := by
  refine unlinked_of_unfilled fun slots found => absurd ?_ absent
  rw [contains, found]
  rfl

/-- The entity is in both worlds or in none, with the same links. -/
structure SameLinks (world after : World) (entity : Entity) : Prop where
  present : after.contains entity = world.contains entity
  children : after.childrenOf entity = world.childrenOf entity
  parent : after.parentOf? entity = world.parentOf? entity
  filled : after.has entity .parent = world.has entity .parent

theorem SameLinks.trans (first : SameLinks world after entity)
    (second : SameLinks after later entity) : SameLinks world later entity :=
  ⟨second.present.trans first.present, second.children.trans first.children,
    second.parent.trans first.parent, second.filled.trans first.filled⟩

theorem sameLinks_of_slots (same : after.slots? entity = world.slots? entity) :
    SameLinks world after entity := by
  constructor <;> simp [contains, childrenOf, parentOf?, get?, has, same]

end Links

/-- The world grows to another one whose new entities have links among each other only, and the
links of the old ones stay. The roots are the new entities without a parent. -/
structure Extends (world after : World) (roots : List Entity) : Prop where
  kept : ∀ entity, world.contains entity → SameLinks world after entity
  linked : ∀ parent child, ¬ world.contains parent → ¬ world.contains child →
    (child ∈ after.childrenOf parent ↔ after.parentOf? child = some parent)
  above : ∀ parent child, ¬ world.contains child → after.parentOf? child = some parent →
    ¬ world.contains parent ∧ after.contains parent
  below : ∀ parent child, ¬ world.contains parent → child ∈ after.childrenOf parent →
    ¬ world.contains child ∧ after.contains child ∧ parent.id < child.id
  ascending : ∀ parent, ¬ world.contains parent →
    (after.childrenOf parent).Pairwise fun child other => child.id < other.id
  filled : ∀ entity, ¬ world.contains entity →
    after.has entity .parent = (after.parentOf? entity).isSome
  mem_roots : ∀ entity, entity ∈ roots ↔
    ¬ world.contains entity ∧ after.contains entity ∧ after.parentOf? entity = none

theorem Extends.stays (extended : world.Extends after roots) (old : world.contains entity) :
    after.contains entity :=
  (extended.kept entity old).present.trans old

theorem Extends.trans (first : world.Extends after roots) (second : after.Extends later others) :
    world.Extends later (roots ++ others) where
  kept entity old := (first.kept entity old).trans (second.kept entity (first.stays old))
  linked parent child freshParent freshChild := by
    -- An entity of the first growth and one of the second are not linked in either direction.
    by_cases parentPresent : after.contains parent
    · rw [(second.kept parent parentPresent).children]
      by_cases childPresent : after.contains child
      · rw [(second.kept child childPresent).parent]
        exact first.linked parent child freshParent freshChild
      · constructor
        · exact fun member => absurd (first.below parent child freshParent member).2.1 childPresent
        · exact fun found => absurd parentPresent (second.above parent child childPresent found).1
    · by_cases childPresent : after.contains child
      · rw [(second.kept child childPresent).parent]
        constructor
        · exact fun member => absurd childPresent (second.below parent child parentPresent member).1
        · exact fun found => absurd (first.above parent child freshChild found).2 parentPresent
      · exact second.linked parent child parentPresent childPresent
  above parent child fresh found := by
    by_cases present : after.contains child
    · rw [(second.kept child present).parent] at found
      obtain ⟨freshParent, parentPresent⟩ := first.above parent child fresh found
      exact ⟨freshParent, second.stays parentPresent⟩
    · obtain ⟨new, parentPresent⟩ := second.above parent child present found
      exact ⟨fun old => new (first.stays old), parentPresent⟩
  below parent child fresh member := by
    by_cases present : after.contains parent
    · rw [(second.kept parent present).children] at member
      obtain ⟨freshChild, childPresent, smaller⟩ := first.below parent child fresh member
      exact ⟨freshChild, second.stays childPresent, smaller⟩
    · obtain ⟨new, childPresent, smaller⟩ := second.below parent child present member
      exact ⟨fun old => new (first.stays old), childPresent, smaller⟩
  ascending parent fresh := by
    by_cases present : after.contains parent
    · rw [(second.kept parent present).children]
      exact first.ascending parent fresh
    · exact second.ascending parent present
  filled entity fresh := by
    by_cases present : after.contains entity
    · rw [(second.kept entity present).filled, (second.kept entity present).parent]
      exact first.filled entity fresh
    · exact second.filled entity present
  mem_roots entity := by
    rw [List.mem_append, first.mem_roots, second.mem_roots]
    by_cases present : after.contains entity
    · rw [(second.kept entity present).parent]
      simp [present, second.stays present]
    · have fresh : ¬ world.contains entity := fun old => present (first.stays old)
      simp [present, fresh]

theorem Extends.of_unlinked
    (kept : ∀ entity, world.contains entity → SameLinks world after entity)
    (unlinked : ∀ entity, ¬ world.contains entity → after.Unlinked entity)
    (mem_roots : ∀ entity, entity ∈ roots ↔ ¬ world.contains entity ∧ after.contains entity) :
    world.Extends after roots where
  kept := kept
  linked parent child freshParent freshChild := by
    rw [(unlinked parent freshParent).children, (unlinked child freshChild).parent]
    simp
  above parent child fresh found := by
    rw [(unlinked child fresh).parent] at found
    cases found
  below parent child fresh member := by
    rw [(unlinked parent fresh).children] at member
    cases member
  ascending parent fresh := by
    rw [(unlinked parent fresh).children]
    exact .nil
  filled entity fresh := by
    rw [(unlinked entity fresh).parent, (unlinked entity fresh).filled]
    rfl
  mem_roots entity := by
    rw [mem_roots]
    constructor
    · exact fun ⟨fresh, present⟩ => ⟨fresh, present, (unlinked entity fresh).parent⟩
    · exact fun ⟨fresh, present, _⟩ => ⟨fresh, present⟩

/-- Worlds with the same entities and links extend each other by nothing. -/
theorem Extends.of_sameLinks (same : ∀ entity, SameLinks world after entity) :
    world.Extends after [] := by
  refine .of_unlinked (fun entity _ => same entity) (fun entity fresh => ?_) fun entity => ?_
  · exact unlinked_of_absent fun present => fresh ((same entity).present.symm.trans present)
  · rw [(same entity).present]
    simp

theorem Extends.refl (world : World) : world.Extends world [] :=
  .of_sameLinks fun _ => sameLinks_of_slots rfl

section Rows
variable {rows : List Slots}

theorem kept_append (made : List Slots) (entity : Entity) (old : (ofRows rows).contains entity) :
    SameLinks (ofRows rows) (ofRows (rows ++ made)) entity :=
  sameLinks_of_slots (slots?_append made old)

theorem extends_create : (ofRows rows).Extends (ofRows (rows ++ [.empty])) [⟨rows.length + 1⟩] := by
  have new : ∀ entity, ¬ (ofRows rows).contains entity →
      ((ofRows (rows ++ [.empty])).contains entity ↔ entity = ⟨rows.length + 1⟩) := by
    rintro ⟨number⟩ fresh
    rw [contains_ofRows] at fresh
    rw [contains_ofRows, List.length_append, List.length_singleton, Entity.mk.injEq]
    dsimp only at fresh ⊢
    omega
  refine .of_unlinked (kept_append _) (fun entity fresh => ?_) fun entity => ?_
  · by_cases present : (ofRows (rows ++ [.empty])).contains entity
    · refine unlinked_of_unfilled fun slots found => ?_
      rw [(new entity fresh).mp present, slots?_ofRows] at found
      simpa using found.symm
    · exact unlinked_of_absent present
  · rw [List.mem_singleton]
    constructor
    · rintro rfl
      have fresh : ¬ (ofRows rows).contains ⟨rows.length + 1⟩ := by
        rw [contains_ofRows]
        simp
      exact ⟨fresh, (new _ fresh).mpr rfl⟩
    · exact fun ⟨fresh, present⟩ => (new entity fresh).mp present

section Forest
variable {blueprints : List Blueprint} {parent child : Entity}

/-- One new entity lists another one that has it as its parent. -/
def LinkedBy (placements : List Placement) (parent child : Entity) : Prop :=
  ∃ above ∈ placements, ∃ below ∈ placements, above.entity = parent ∧ below.entity = child ∧
    below.parent = some parent ∧ child ∈ above.children

theorem mem_childrenOf_grown (fresh : ¬ (ofRows rows).contains parent) :
    child ∈ (grown rows blueprints).childrenOf parent ↔
      LinkedBy (Blueprint.rootPlacements (rows.length + 1) blueprints) parent child := by
  constructor
  · intro member
    have present : (grown rows blueprints).contains parent := by
      by_contra absent
      rw [(unlinked_of_absent absent).children] at member
      cases member
    obtain ⟨above, placed, rfl⟩ := exists_placement_iff.mpr ⟨fresh, present⟩
    rw [childrenOf_placement (holds_grown above placed)] at member
    obtain ⟨below, inside, same, parented⟩ := Blueprint.child_rootPlacements placed member
    exact ⟨above, placed, below, inside, rfl, same, parented, member⟩
  · rintro ⟨above, placed, _, _, rfl, _, _, listed⟩
    rw [childrenOf_placement (holds_grown above placed)]
    exact listed

variable (plain : ∀ blueprint ∈ blueprints, blueprint.Every Stamp.Plain)
include plain

theorem plain_placement {placement : Placement}
    (placed : placement ∈ Blueprint.rootPlacements (rows.length + 1) blueprints) :
    placement.blueprint.stamp.Plain := by
  cases Blueprint.every_rootPlacements plain placed with
  | intro own below => exact own

theorem parentOf?_grown (fresh : ¬ (ofRows rows).contains child) :
    (grown rows blueprints).parentOf? child = some parent ↔
      LinkedBy (Blueprint.rootPlacements (rows.length + 1) blueprints) parent child := by
  constructor
  · intro found
    have present : (grown rows blueprints).contains child := by
      by_contra absent
      rw [(unlinked_of_absent absent).parent] at found
      cases found
    obtain ⟨below, placed, rfl⟩ := exists_placement_iff.mpr ⟨fresh, present⟩
    rw [parentOf?_placement (holds_grown below placed) (plain_placement plain placed)] at found
    rcases Blueprint.origin_rootPlacements placed with ⟨orphan, _⟩ | ⟨above, inside, own, listed⟩
    · cases orphan.symm.trans found
    · cases own.symm.trans found
      exact ⟨above, inside, below, placed, rfl, rfl, found, listed⟩
  · rintro ⟨_, _, below, placed, _, rfl, parented, _⟩
    rw [parentOf?_placement (holds_grown below placed) (plain_placement plain placed)]
    exact parented

theorem extends_grown : (ofRows rows).Extends (grown rows blueprints)
    (Blueprint.rootsFrom (rows.length + 1) blueprints) where
  kept := kept_append _
  linked parent child freshParent freshChild :=
    (mem_childrenOf_grown freshParent).trans (parentOf?_grown plain freshChild).symm
  above parent child fresh found := by
    obtain ⟨above, placed, _, _, rfl, _, _, _⟩ := (parentOf?_grown plain fresh).mp found
    exact exists_placement_iff.mp ⟨above, placed, rfl⟩
  below parent child fresh member := by
    obtain ⟨above, _, below, placed, rfl, rfl, _, listed⟩ := (mem_childrenOf_grown fresh).mp member
    obtain ⟨new, present⟩ := exists_placement_iff.mp ⟨below, placed, rfl⟩
    exact ⟨new, present, Blueprint.le_of_mem_rootsFrom listed⟩
  ascending parent fresh := by
    by_cases present : (grown rows blueprints).contains parent
    · obtain ⟨above, placed, rfl⟩ := exists_placement_iff.mpr ⟨fresh, present⟩
      rw [childrenOf_placement (holds_grown above placed)]
      exact Blueprint.rootsFrom_ascending _ _
    · rw [(unlinked_of_absent present).children]
      exact .nil
  filled entity fresh := by
    by_cases present : (grown rows blueprints).contains entity
    · obtain ⟨placement, placed, rfl⟩ := exists_placement_iff.mpr ⟨fresh, present⟩
      have found := holds_grown placement placed
      have own := plain_placement plain placed
      rw [has_placement found own, parentOf?_placement found own]
    · rw [(unlinked_of_absent present).parent, (unlinked_of_absent present).filled]
      rfl
  mem_roots entity := by
    constructor
    · intro root
      obtain ⟨placement, placed, rfl, orphan⟩ := Blueprint.root_rootPlacements root
      obtain ⟨fresh, present⟩ := exists_placement_iff.mp ⟨placement, placed, rfl⟩
      refine ⟨fresh, present, ?_⟩
      rw [parentOf?_placement (holds_grown placement placed) (plain_placement plain placed)]
      exact orphan
    · rintro ⟨fresh, present, orphan⟩
      obtain ⟨placement, placed, rfl⟩ := exists_placement_iff.mpr ⟨fresh, present⟩
      rw [parentOf?_placement (holds_grown placement placed) (plain_placement plain placed)]
        at orphan
      rcases Blueprint.origin_rootPlacements placed with ⟨_, root⟩ | ⟨above, _, own, _⟩
      · exact root
      · cases orphan.symm.trans own

end Forest
end Rows

section Construct
variable {component : Component}

/-- A component in another slot than those of the links leaves all links alone. -/
theorem extends_assign (assigned : world.assign entity component = .ok after)
    (parent : ComponentType.parent.id ≠ component.id)
    (children : ComponentType.children.id ≠ component.id) : world.Extends after [] := by
  refine .of_sameLinks fun other => ?_
  have slots := slots?_assign assigned other
  by_cases target : other = entity
  · rw [if_pos target] at slots
    constructor <;>
      simp [contains, childrenOf, parentOf?, get?, has, slots, Option.any_map, Option.bind_map,
        Slots.has, Slots.get?, Slots.find?_insert, parent, children]
  · rw [if_neg target] at slots
    exact sameLinks_of_slots slots

theorem extends_construct (name : String) (data : Tree) :
    world.Extends (Registry.defaults.construct world entity name data).1 [] := by
  unfold Registry.construct
  rw [Registry.lookup?_defaults]
  cases Standard.ofKey? name with
  | none => exact .refl world
  | some standard =>
    simp only [Option.map_some, Standard.constructor, Constructor.ofReader]
    cases accepted : standard.read data with
    | error error => exact .refl world
    | ok component =>
      dsimp only
      cases assigned : world.assign entity component with
      | error error => exact .refl world
      | ok after =>
        have id : component.id = standard.type.id :=
          congrArg ComponentType.id (Standard.type_read accepted)
        refine extends_assign assigned ?_ ?_ <;> rw [id] <;> cases standard <;> decide

end Construct

end World
end SceneGraph
