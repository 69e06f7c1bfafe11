import SceneGraph.Proofs.OrderedMap
import SceneGraph.Proofs.World.Canonical
import SceneGraph.Proofs.World.History

/-!
Listings of an entity: the names of its components and their snapshot. Both are made from the table
of components, which has no order of its own, by sorting. Every slot has its own name, so whatever
order the table is gone through in, and whatever was done to the world before, what is listed is
what the slots hold.
-/
namespace SceneGraph

namespace Slots.Ordered

variable {slots : Slots} (ordered : slots.Ordered)
include ordered

/-- There is one way to arrange the components by name. -/
theorem eq_byName {arranged : List Component} (permuted : arranged.Perm slots.components)
    (ascending : arranged.Pairwise fun first second => first.typeName ≤ second.typeName) :
    arranged = slots.byName := by
  have toByName : arranged.Perm slots.byName :=
    permuted.trans (perm_sortByName slots.components).symm
  refine toByName.eq_of_pairwise ?_ ascending (sortByName_ascending slots.components)
  intro first second member other small large
  -- Components of one name share a slot, and a slot occurs once.
  have same : first.id = second.id :=
    congrArg TypeId.ofName (le_antisymm small large)
  exact List.inj_on_of_nodup_map ordered.ids_nodup (permuted.mem_iff.mp member)
    ((perm_sortByName slots.components).mem_iff.mp other) same

theorem names_ascending :
    (slots.byName.map Component.typeName).Pairwise fun first second =>
      Text.bytes first < Text.bytes second :=
  List.pairwise_map.mpr (ordered.byName_ascending.imp Text.lt_iff_bytes.mp)

theorem mem_names {name : String} :
    name ∈ slots.byName.map Component.typeName ↔
      ∃ id component, slots.find? id = some component ∧ component.typeName = name := by
  rw [List.mem_map]
  constructor
  · rintro ⟨component, member, named⟩
    exact ⟨_, component, ordered.mem_byName.mp member, named⟩
  · rintro ⟨id, component, held, named⟩
    exact ⟨component, ordered.mem_byName_of_find? held, named⟩

end Slots.Ordered

theorem Slots.length_byName (slots : Slots) : slots.byName.length = slots.size :=
  (perm_sortByName slots.components).length_eq

theorem Slots.names_eq_byName {slots : Slots} {listing : List Component} {names : List String}
    (listed : listing.Perm slots.components)
    (permuted : names.Perm (listing.map Component.typeName))
    (ascending : names.Pairwise (· ≤ ·)) : names = slots.byName.map Component.typeName := by
  have toByName : names.Perm (slots.byName.map Component.typeName) :=
    permuted.trans ((listed.trans (perm_sortByName slots.components).symm).map _)
  refine toByName.eq_of_pairwise (fun _ _ _ _ => le_antisymm) ascending ?_
  exact List.pairwise_map.mpr (sortByName_ascending slots.components)

/-- Ascending keys are distinct, so putting the members into a map one by one loses none. -/
theorem Slots.Shows.entries_ofList {slots : Slots} {members : List (String × Json)}
    (shows : slots.Shows members) : (OrderedMap.ofList members).entries = members := by
  apply OrderedMap.entries_ofList
  refine List.pairwise_map.mpr (shows.ascending.imp fun smaller same => ?_)
  rw [same] at smaller
  exact List.lt_irrefl _ smaller

namespace World

theorem slots?_of_contains {world : World} {entity : Entity} (live : world.contains entity) :
    world.slots? entity = some (world.held entity) := by
  obtain ⟨slots, found⟩ := Option.isSome_iff_exists.mp live
  rw [held, found, Option.getD_some]

/-- What a world lists of its entities. -/
structure Lists (world : World) : Prop where
  /-- The names are those of the filled slots, each once, in the order of their bytes. -/
  names : ∀ entity, world.contains entity → ∃ names, world.componentNames entity = .ok names ∧
    names.Pairwise (fun first second => Text.bytes first < Text.bytes second) ∧
    names.length = world.componentCount entity ∧
    ∀ name, name ∈ names ↔
      ∃ id component, (world.held entity).find? id = some component ∧ component.typeName = name
  /-- A snapshot has the names for keys and loses none of them. -/
  shown : ∀ entity, world.contains entity → (world.held entity).Serialises →
    ∃ members, world.snapshot entity = .ok (.object members) ∧
      world.componentNames entity = .ok (members.map Prod.fst) ∧
      (world.held entity).Shows members ∧ (OrderedMap.ofList members).entries = members
  refused : ∀ entity, world.contains entity → ¬ (world.held entity).Serialises →
    ∃ error, world.snapshot entity = .error error ∧ (world.held entity).Refuses entity error
  /-- Nothing depends on the order in which the table is gone through and on how it is sorted. -/
  arranged : ∀ entity listing, world.contains entity →
    listing.Perm (world.held entity).components →
    (∀ names, names.Perm (listing.map Component.typeName) → names.Pairwise (· ≤ ·) →
      world.componentNames entity = .ok names) ∧
    ∀ components, components.Perm listing →
      components.Pairwise (fun first second => first.typeName ≤ second.typeName) →
      world.snapshot entity = (snapshotMembers entity components).map .object

section Tables
variable {world : World} {entity : Entity} (live : world.contains entity)
include live

theorem componentNames_eq :
    world.componentNames entity = .ok ((world.held entity).byName.map Component.typeName) := by
  rw [componentNames, components, slots?_of_contains live]
  rfl

theorem snapshot_eq :
    world.snapshot entity =
      (snapshotMembers entity (world.held entity).byName).map .object :=
  snapshot_of_slots (slots?_of_contains live)

end Tables

theorem lists_of_ordered {world : World} (ordered : ∀ entity, (world.held entity).Ordered) :
    world.Lists where
  names entity live := by
    refine ⟨_, componentNames_eq live, (ordered entity).names_ascending, ?_,
      fun name => (ordered entity).mem_names⟩
    rw [List.length_map, Slots.length_byName, componentCount_eq_held]
  shown entity live serialises := by
    cases result : snapshotMembers entity (world.held entity).byName with
    | error error =>
      obtain ⟨id, component, reason, held, why, _⟩ := (ordered entity).refuses result
      obtain ⟨value, serialised⟩ := serialises id component held
      cases serialised.symm.trans why
    | ok members =>
      obtain ⟨shows, _⟩ := (ordered entity).shows result
      refine ⟨members, ?_, ?_, shows, shows.entries_ofList⟩
      · rw [snapshot_eq live, result]
        rfl
      · rw [componentNames_eq live, (snapshotMembers_ok result).1]
  refused entity live fails := by
    cases result : snapshotMembers entity (world.held entity).byName with
    | error error =>
      refine ⟨error, ?_, (ordered entity).refuses result⟩
      rw [snapshot_eq live, result]
      rfl
    | ok members => exact absurd ((ordered entity).shows result).2 fails
  arranged entity listing live listed := by
    constructor
    · intro names permuted ascending
      rw [componentNames_eq live, Slots.names_eq_byName listed permuted ascending]
    · intro components permuted ascending
      rw [snapshot_eq live, (ordered entity).eq_byName (permuted.trans listed) ascending]

end World

namespace World.Call

/-- What the worlds that calls leave list of their entities, and that the calls count for it only
through what they put into the slots. -/
structure Listed (calls : List Call) : Prop where
  lists : (runAll calls).Lists
  agrees : ∀ others entity, (runAll calls).contains entity → (runAll others).contains entity →
    (∀ id, ((runAll calls).held entity).find? id = ((runAll others).held entity).find? id) →
      (runAll calls).componentNames entity = (runAll others).componentNames entity ∧
      (runAll calls).snapshot entity = (runAll others).snapshot entity

/-- After any calls, the listing of an entity is decided by the content of its slots alone. -/
theorem listed_runAll (calls : List Call) : Listed calls where
  lists := World.lists_of_ordered fun entity => by
    rw [held_runAll]
    exact Slots.ordered_ofStamp _
  agrees others entity live otherLive same := by
    have equal : (runAll calls).held entity = (runAll others).held entity := by
      rw [held_runAll, held_runAll] at same ⊢
      exact (Slots.ordered_ofStamp _).ext (Slots.ordered_ofStamp _) same
    constructor
    · rw [World.componentNames_eq live, World.componentNames_eq otherLive, equal]
    · rw [World.snapshot_eq live, World.snapshot_eq otherLive, equal]

/-- The later time scale counts, an infinite one is shown as null, and a component of an application
as it says. -/
example : (runAll [.create, .assign ⟨1⟩ (.timeScale ⟨2.0⟩), .assign ⟨1⟩ (.name "clock"),
      .assign ⟨1⟩ (.custom ⟨"hands", "Hands"⟩ (.ok (.array [.natural 3]))),
      .assign ⟨1⟩ (.timeScale ⟨1.0 / 0.0⟩)]).snapshot ⟨1⟩ = .ok (.object
    [("Hands", .array [.natural 3]), ("Name", .object [("name", .string "clock")]),
      ("TimeScale", .object [("scale", .null)])]) :=
  rfl

end World.Call
end SceneGraph
