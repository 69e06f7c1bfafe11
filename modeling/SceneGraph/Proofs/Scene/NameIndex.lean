import Mathlib.Data.Finset.Card
import Mathlib.Data.Finset.Dedup
import Mathlib.Data.Set.Card
import SceneGraph.Proofs.Scene.Instantiation

/-!
The index of names as a function of the entities recorded in it. Of entities that are recorded in
the order of their ids it knows every name that occurs and the first entity of that name, and each
further one is reported.
-/
namespace SceneGraph

namespace EntityIndex

/-- Entities recorded one after the other, and what is reported about them. -/
def recordAll : EntityIndex → List (String × Entity) → EntityIndex × List Event
  | index, [] => (index, [])
  | index, (name, entity) :: rest =>
      let first := index.record name entity
      let later := first.1.recordAll rest
      (later.1, first.2 ++ later.2)

theorem recordAll_append (index : EntityIndex) (named others : List (String × Entity)) :
    index.recordAll (named ++ others) =
      (((index.recordAll named).1.recordAll others).1,
        (index.recordAll named).2 ++ ((index.recordAll named).1.recordAll others).2) := by
  induction named generalizing index with
  | nil => rfl
  | cons pair rest ih =>
    rw [List.cons_append, recordAll, recordAll, ih, List.append_assoc]

theorem contains_eq_isSome (index : EntityIndex) (name : String) :
    index.contains name = (index.get? name).isSome :=
  Std.TreeMap.contains_eq_isSome_getElem?

theorem get?_empty (name : String) : empty.get? name = none := Std.TreeMap.getElem?_emptyc

theorem get?_record (index : EntityIndex) (name other : String) (entity : Entity) :
    (index.record name entity).1.get? other =
      (index.get? other).or (if name = other then some entity else none) := by
  unfold record
  rw [contains_eq_isSome]
  cases held : index.get? name with
  | some first =>
    by_cases same : name = other
    · subst same
      simp [held]
    · simp [same]
  | none =>
    have inserted : (⟨index.entities.insert name entity⟩ : EntityIndex).get? other =
        if name = other then some entity else index.get? other := by
      unfold get?
      rw [Std.TreeMap.getElem?_insert]
      simp only [Std.compare_eq_iff_eq]
    rw [Option.isSome_none, if_neg Bool.false_ne_true, inserted]
    by_cases same : name = other
    · subst same
      simp [held]
    · simp [same]

/-- A name keeps its entity, and gets the first one if it has none. -/
theorem get?_recordAll (index : EntityIndex) (named : List (String × Entity)) (name : String) :
    (index.recordAll named).1.get? name =
      (index.get? name).or ((named.find? fun pair => pair.1 = name).map Prod.snd) := by
  induction named generalizing index with
  | nil => exact Option.or_none.symm
  | cons pair rest ih =>
    rw [recordAll, ih, get?_record, Option.or_assoc]
    by_cases same : pair.1 = name
    · simp [same]
    · simp [same]

theorem size_record (index : EntityIndex) (name : String) (entity : Entity) :
    (index.record name entity).1.size =
      if index.contains name then index.size else index.size + 1 := by
  have inserted : (index.entities.insert name entity).size =
      if index.entities.contains name then index.entities.size else index.entities.size + 1 :=
    Std.TreeMap.size_insert
  unfold record
  split
  · rfl
  · rename_i free
    exact inserted.trans (if_neg free)

/-- The size is the number of names, however often they occur. -/
theorem size_recordAll_empty (named : List (String × Entity)) :
    (empty.recordAll named).1.size = (named.map Prod.fst).toFinset.card := by
  induction named using List.reverseRecOn with
  | nil => rfl
  | append_singleton earlier pair ih =>
    have known : (empty.recordAll earlier).1.contains pair.1 ↔
        pair.1 ∈ (earlier.map Prod.fst).toFinset := by
      rw [contains_eq_isSome, get?_recordAll, get?_empty, Option.none_or, Option.isSome_map,
        List.isSome_find?]
      simp
    have last : (empty.recordAll (earlier ++ [pair])).1 =
        ((empty.recordAll earlier).1.record pair.1 pair.2).1 := by
      rw [recordAll_append]
      rfl
    rw [last, size_record, ih, List.map_append, List.map_singleton, List.toFinset_append,
      List.toFinset_cons, List.toFinset_nil, Finset.union_insert, Finset.union_empty,
      Finset.card_insert_eq_ite]
    simp only [known]

/-- Whoever does not make the index larger is reported. -/
theorem length_taken (index : EntityIndex) (named : List (String × Entity)) :
    (index.recordAll named).2.length + (index.recordAll named).1.size =
      index.size + named.length := by
  induction named generalizing index with
  | nil => exact Nat.add_comm _ _
  | cons pair rest ih =>
    have step : (index.record pair.1 pair.2).2.length + (index.record pair.1 pair.2).1.size =
        index.size + 1 := by
      rw [size_record]
      unfold record
      split
      · exact Nat.add_comm 1 _
      · exact Nat.zero_add _
    have later := ih (index.record pair.1 pair.2).1
    rw [recordAll, List.length_append, List.length_cons]
    dsimp only
    omega

end EntityIndex

namespace Stamp
variable {stamp : Stamp} {name : String}

/-- A component is the name, and none before it is in the slot of names. -/
def Carries (stamp : Stamp) (name : String) : Prop :=
  ∃ before after, stamp.components = before ++ .name name :: after ∧
    ∀ earlier ∈ before, earlier.id ≠ ComponentType.name.id

def Named (stamp : Stamp) : Prop := ∃ name, stamp.Carries name

theorem get?_name_eq_some : stamp.get? .name = some (.name name) ↔ stamp.Carries name := by
  have own : (Component.name name).id = ComponentType.name.id := rfl
  rw [get?, Option.filter_eq_some_iff, find?, List.find?_eq_some_iff_append]
  simp [Carries, own, Component.type]

/-- What is read as the name is the name that is carried. -/
theorem name?_eq_some : stamp.name? = some name ↔ stamp.Carries name := by
  rw [← get?_name_eq_some, name?, Option.bind_eq_some_iff]
  constructor
  · rintro ⟨component, found, named⟩
    cases component <;> cases named
    exact found
  · intro found
    exact ⟨_, found, rfl⟩

theorem isSome_name? : stamp.name?.isSome ↔ stamp.Named := by
  rw [Option.isSome_iff_exists]
  exact exists_congr fun _ => name?_eq_some

instance : DecidablePred Named := fun _ => decidable_of_iff _ isSome_name?

end Stamp

theorem Blueprint.name?_eq_some {blueprint : Blueprint} {name : String} :
    blueprint.name? = some name ↔ blueprint.stamp.Carries name := Stamp.name?_eq_some

namespace Placement

/-- The name under which the entity is recorded. -/
def named? (placement : Placement) : Option (String × Entity) :=
  placement.blueprint.name?.map fun name => (name, placement.entity)

theorem map_named? (placements : List Placement) :
    (placements.filterMap named?).map Prod.fst =
      placements.filterMap fun placement => placement.blueprint.name? := by
  rw [List.map_filterMap]
  refine List.filterMap_congr fun placement _ => ?_
  cases named : placement.blueprint.name? <;> simp [named?, named]

theorem find?_named? (placements : List Placement) (name : String) :
    ((placements.filterMap named?).find? fun pair => pair.1 = name).map Prod.snd =
      (placements.find? fun placement => placement.blueprint.name? = some name).map
        Placement.entity := by
  induction placements with
  | nil => rfl
  | cons placement rest ih =>
    cases named : placement.blueprint.name? with
    | none =>
      have skipped : placement.named? = none := by
        rw [named?, named]
        rfl
      rw [List.filterMap_cons_none skipped, ih, List.find?_cons_of_neg (by simp [named])]
    | some own =>
      have listed : placement.named? = some (own, placement.entity) := by
        rw [named?, named]
        rfl
      rw [List.filterMap_cons_some listed]
      by_cases same : own = name
      · rw [List.find?_cons_of_pos (by simp [same]),
          List.find?_cons_of_pos (by simp [named, same])]
        rfl
      · rw [List.find?_cons_of_neg (by simp [same]), ih,
          List.find?_cons_of_neg (by simp [named, same])]

/-- The entity is the one of smallest id among those whose stamps carry the name. -/
def FirstNamed (placements : List Placement) (name : String) (entity : Entity) : Prop :=
  (∃ placement ∈ placements, placement.blueprint.stamp.Carries name ∧
    placement.entity = entity) ∧
    ∀ placement ∈ placements, placement.blueprint.stamp.Carries name →
      entity.id ≤ placement.entity.id

section Ascending
variable {placements : List Placement}
  (ascending : placements.Pairwise fun earlier later => earlier.entity.id < later.entity.id)
include ascending

theorem firstNamed_of_find? {name : String} {placement : Placement}
    (found : placements.find? (fun placement => placement.blueprint.name? = some name) =
      some placement) : FirstNamed placements name placement.entity := by
  obtain ⟨named, before, after, rfl, missed⟩ := List.find?_eq_some_iff_append.mp found
  have carried := Blueprint.name?_eq_some.mp (of_decide_eq_true named)
  refine ⟨⟨placement, by simp, carried, rfl⟩, fun other member carries => ?_⟩
  rcases List.mem_append.mp member with inside | inside
  · have absent := missed other inside
    rw [decide_eq_true (Blueprint.name?_eq_some.mpr carries)] at absent
    cases absent
  · rcases List.mem_cons.mp inside with rfl | later
    · exact Nat.le_refl _
    · have behind := (List.pairwise_append.mp ascending).2.1
      exact Nat.le_of_lt ((List.pairwise_cons.mp behind).1 other later)

theorem find?_eq_some_iff_firstNamed {name : String} {entity : Entity} :
    (placements.find? fun placement => placement.blueprint.name? = some name).map
      Placement.entity = some entity ↔ FirstNamed placements name entity := by
  constructor
  · intro read
    obtain ⟨placement, found, rfl⟩ := Option.map_eq_some_iff.mp read
    exact firstNamed_of_find? ascending found
  · rintro ⟨⟨carrier, member, carries, rfl⟩, least⟩
    cases found : placements.find? fun placement => placement.blueprint.name? = some name with
    | none =>
      have named := decide_eq_true (Blueprint.name?_eq_some.mpr carries)
      exact absurd named (List.find?_eq_none.mp found carrier member)
    | some placement =>
      obtain ⟨⟨first, inside, named, same⟩, smallest⟩ := firstNamed_of_find? ascending found
      have above := least first inside named
      rw [same] at above
      have equal := Nat.le_antisymm (smallest carrier member carries) above
      exact congrArg some (congrArg Entity.mk equal)

end Ascending
end Placement

/-- The index of the names of some entities: every name that occurs, once, with its first entity. -/
structure EntityIndex.Lists (index : EntityIndex) (placements : List Placement) : Prop where
  first : ∀ name entity, index.get? name = some entity ↔
    Placement.FirstNamed placements name entity
  absent : ∀ name, index.get? name = none ↔
    ∀ placement ∈ placements, ¬ placement.blueprint.stamp.Carries name
  size_eq : index.size =
    {name | ∃ placement ∈ placements, placement.blueprint.stamp.Carries name}.ncard

theorem EntityIndex.lists_recordAll {placements : List Placement}
    (ascending : placements.Pairwise fun earlier later => earlier.entity.id < later.entity.id) :
    (empty.recordAll (placements.filterMap Placement.named?)).1.Lists placements where
  first name entity := by
    rw [get?_recordAll, get?_empty, Option.none_or, Placement.find?_named?]
    exact Placement.find?_eq_some_iff_firstNamed ascending
  absent name := by
    rw [get?_recordAll, get?_empty, Option.none_or, Placement.find?_named?, Option.map_eq_none_iff,
      List.find?_eq_none]
    exact forall₂_congr fun placement _ => by rw [decide_eq_true_iff, Blueprint.name?_eq_some]
  size_eq := by
    rw [size_recordAll_empty, Placement.map_named?, ← Set.ncard_coe_finset]
    congr 1
    ext name
    simp [Blueprint.name?_eq_some]

theorem Placement.countP_named (placements : List Placement) :
    placements.countP (fun placement => placement.blueprint.stamp.Named) =
      (placements.filterMap Placement.named?).length := by
  induction placements with
  | nil => rfl
  | cons placement rest ih =>
    rw [List.countP_cons, ih]
    cases named : placement.blueprint.stamp.name? <;>
      simp [Placement.named?, Blueprint.name?, named, ← Stamp.isSome_name?]

end SceneGraph
