import SceneGraph.Proofs.OrderedMap
import SceneGraph.Proofs.World.Canonical
import SceneGraph.Proofs.World.History

/-!
Stamps as records of what was written to them. A slot stands where it was first written and holds
what was written last, by whatever type of its name. An entity that is spawned from the stamp has
these components, and is asked for them as the stamp is.
-/
namespace SceneGraph

namespace Stamp

/-- The slots that are written, in the order of their first writes. -/
def firstWrites (written : List Component) : List TypeId := (written.map Component.id).eraseDups

def lastWrite? (written : List Component) (id : TypeId) : Option Component :=
  written.reverse.find? fun component => component.id = id

theorem ids_record (component : Component) (components : List Component) :
    (record component components).map Component.id =
      if component.id ∈ components.map Component.id then components.map Component.id
      else components.map Component.id ++ [component.id] := by
  induction components with
  | nil => rfl
  | cons first rest ih =>
    unfold record
    split
    · rename_i same
      simp [same]
    · rename_i different
      have other : component.id ≠ first.id := Ne.symm different
      rw [List.map_cons, ih, List.map_cons]
      by_cases later : component.id ∈ rest.map Component.id
      · rw [if_pos later, if_pos (List.mem_cons_of_mem _ later)]
      · rw [if_neg later, if_neg (List.not_mem_cons_of_ne_of_not_mem other later)]
        rfl

theorem firstWrites_append (written : List Component) (component : Component) :
    firstWrites (written ++ [component]) =
      if component.id ∈ written.map Component.id then firstWrites written
      else firstWrites written ++ [component.id] := by
  rw [firstWrites, List.map_append, List.map_singleton, eraseDups_append_singleton]
  rfl

theorem ofList_append (written : List Component) (component : Component) :
    ofList (written ++ [component]) = (ofList written).set component := by
  rw [ofList, List.foldl_append, ← ofList]
  rfl

theorem ids_ofList (written : List Component) :
    (ofList written).components.map Component.id = firstWrites written := by
  induction written using List.reverseRecOn with
  | nil => rfl
  | append_singleton earlier last ih =>
    have listed : last.id ∈ (ofList earlier).components.map Component.id ↔
        last.id ∈ earlier.map Component.id := by
      rw [ih, firstWrites, List.mem_eraseDups]
    rw [ofList_append, set, ids_record, firstWrites_append, ih]
    rw [ih] at listed
    simp only [listed]

theorem find?_ofList (written : List Component) (id : TypeId) :
    (ofList written).find? id = lastWrite? written id := by
  induction written using List.reverseRecOn with
  | nil => rfl
  | append_singleton earlier last ih =>
    rw [ofList_append, find?_set, ih, lastWrite?, lastWrite?, List.reverse_append,
      List.reverse_singleton, List.singleton_append, List.find?_cons]
    by_cases same : id = last.id
    · simp [same]
    · simp [same, Ne.symm same]

/-- A stamp is the list of what its slots hold. -/
theorem Distinct.components_eq {stamp : Stamp} (distinct : stamp.Distinct) :
    stamp.components = (stamp.components.map Component.id).filterMap stamp.find? := by
  have found : ∀ component ∈ stamp.components,
      (stamp.find? ∘ Component.id) component = some component := fun component member =>
    distinct.mem_iff.mp member
  rw [List.filterMap_map, List.filterMap_congr found, List.filterMap_some]

/-- What is in a stamp after values have been written to an empty one, one after the other. -/
structure Records (stamp : Stamp) (written : List Component) : Prop where
  distinct : stamp.Distinct
  order : stamp.components.map Component.id = firstWrites written
  /-- Every slot stands once, at the place of its first write, with the value of its last. -/
  components_eq : stamp.components = (firstWrites written).filterMap (lastWrite? written)
  names_eq : stamp.names =
    (firstWrites written).filterMap fun id => (lastWrite? written id).map Component.typeName
  get?_eq : ∀ type, stamp.get? type =
    (lastWrite? written type.id).filter fun component => component.type = type
  has_iff : ∀ type, stamp.has type ↔ ∃ component ∈ written, component.id = type.id
  contains_iff : ∀ id, stamp.contains id ↔ ∃ component ∈ written, component.id = id
  size_eq : stamp.size = (firstWrites written).length

theorem contains_iff_find? (stamp : Stamp) (id : TypeId) :
    stamp.contains id ↔ (stamp.find? id).isSome := by
  rw [contains, find?, List.isSome_find?]

theorem records_ofList (written : List Component) : (ofList written).Records written := by
  have distinct := distinct_ofList written
  have order := ids_ofList written
  have finds : (ofList written).find? = lastWrite? written := funext (find?_ofList written)
  have components : (ofList written).components =
      (firstWrites written).filterMap (lastWrite? written) := by
    rw [distinct.components_eq, order, finds]
  have contained (id : TypeId) :
      (ofList written).contains id ↔ ∃ component ∈ written, component.id = id := by
    rw [contains_iff_find?, find?_ofList, lastWrite?, List.isSome_find?]
    simp
  refine ⟨distinct, order, components, ?_, ?_, fun type => contained type.id, contained, ?_⟩
  · rw [names, components, List.map_filterMap]
  · intro type
    rw [get?, find?_ofList]
  · rw [size, ← order, List.length_map]

end Stamp

namespace Slots

theorem perm_ofStamp {stamp : Stamp} (distinct : stamp.Distinct) :
    (ofStamp stamp).components.Perm stamp.components := by
  have ordered := ordered_ofStamp stamp
  refine (List.perm_ext_iff_of_nodup ordered.ids_nodup.of_map distinct.of_map).mpr ?_
  intro component
  rw [ordered.mem_iff, find?_ofStamp, distinct.last?_eq_find?, distinct.mem_iff]

theorem find?_ofStamp_distinct {stamp : Stamp} (distinct : stamp.Distinct) :
    (ofStamp stamp).find? = stamp.find? := by
  funext id
  rw [find?_ofStamp, distinct.last?_eq_find?]

end Slots

namespace World

/-- The world with one more entity, which has the components of a stamp. -/
structure Spawned (world : World) (stamp : Stamp) (entity : Entity) (after : World) : Prop where
  new : ¬ world.contains entity
  entities_eq : after.entities = world.entities ++ [entity]
  others : ∀ other, other ≠ entity → after.held other = world.held other
  components : (after.held entity).components.Perm stamp.components
  componentCount_eq : after.componentCount entity = stamp.size
  get?_eq : ∀ type, after.get? entity type = stamp.get? type
  has_eq : ∀ type, after.has entity type = stamp.has type

theorem spawned (world : World) {stamp : Stamp} (distinct : stamp.Distinct) :
    world.Spawned stamp (world.spawn stamp).1 (world.spawn stamp).2 := by
  have held : (world.spawn stamp).2.held (world.spawn stamp).1 = .ofStamp stamp := by
    rw [held_spawn]
    exact if_pos rfl
  have finds := Slots.find?_ofStamp_distinct distinct
  refine ⟨world.not_contains_next, ?_, ?_, ?_, ?_, ?_, ?_⟩
  · have size : (world.spawn stamp).2.rows.size = world.rows.size + 1 := world.size_spawn stamp
    rw [entities, size, List.range_succ, List.map_append]
    rfl
  · intro other apart
    rw [held_spawn]
    exact if_neg apart
  · rw [held]
    exact Slots.perm_ofStamp distinct
  · rw [componentCount_eq_held, held]
    exact (Slots.perm_ofStamp distinct).length_eq
  · intro type
    rw [get?_eq_held, held, Slots.get?, finds, Stamp.get?]
  · intro type
    rw [has_eq_held, held, Slots.has, finds, Bool.eq_iff_iff, ← Stamp.contains_iff_find?]
    rfl

end World

/-- Nothing that a stamp recorded is lost when it is spawned, in any world and after any writes. -/
theorem Stamp.recorded_and_spawned (written : List Component) :
    (ofList written).Records written ∧
      ∀ world : World, world.Spawned (ofList written) (world.spawn (ofList written)).1
        (world.spawn (ofList written)).2 :=
  ⟨records_ofList written, fun world => world.spawned (distinct_ofList written)⟩

/-- Two types of one name: the later value takes the place of the earlier one and its name. -/
example :
    let health : CustomType := ⟨"first", "Health"⟩
    let other : CustomType := ⟨"second", "Health"⟩
    let stamp := Stamp.ofList [.custom health (.ok .null), .name "lamp", .custom other (.ok .null)]
    stamp.names = ["Health", "Name"] ∧ (stamp.get? (.custom health)).isNone ∧
      stamp.has (.custom health) ∧ (stamp.get? (.custom other)).isSome := by
  decide +kernel

end SceneGraph
