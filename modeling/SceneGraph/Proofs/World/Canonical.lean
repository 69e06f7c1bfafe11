import SceneGraph.Proofs.World.Snapshot

/-!
Tables with the same contents are the same table, since the hashes decide the order. So the slots
of a stamp do not depend on the order in which it was recorded, and recording one more component
is inserting it.
-/
namespace SceneGraph

namespace Stamp

variable {stamp other : Stamp}

theorem Distinct.find?_eq_some_iff (distinct : stamp.Distinct) {id : TypeId}
    {component : Component} :
    stamp.find? id = some component ↔ component ∈ stamp.components ∧ component.id = id := by
  unfold find?
  constructor
  · intro found
    have held := List.find?_some found
    exact ⟨List.mem_of_find?_eq_some found, of_decide_eq_true held⟩
  · rintro ⟨member, rfl⟩
    cases found : stamp.components.find? fun held => held.id = component.id with
    | none =>
      have passed := List.find?_eq_none.mp found component member
      simp at passed
    | some held =>
      have same := List.find?_some found
      rw [List.inj_on_of_nodup_map distinct (List.mem_of_find?_eq_some found) member
        (of_decide_eq_true same)]

theorem Distinct.mem_iff (distinct : stamp.Distinct) {component : Component} :
    component ∈ stamp.components ↔ stamp.find? component.id = some component := by
  rw [distinct.find?_eq_some_iff, and_iff_left rfl]

/-- The same components, perhaps recorded in another order. -/
structure Same (stamp other : Stamp) : Prop where
  distinct : stamp.Distinct
  permuted : stamp.components.Perm other.components

theorem Same.of_find? (distinct : stamp.Distinct) (otherDistinct : other.Distinct)
    (same : ∀ id, stamp.find? id = other.find? id) : stamp.Same other := by
  refine ⟨distinct, (List.perm_ext_iff_of_nodup distinct.of_map otherDistinct.of_map).mpr ?_⟩
  intro component
  rw [distinct.mem_iff, otherDistinct.mem_iff, same]

theorem Same.otherDistinct (same : stamp.Same other) : other.Distinct :=
  (same.permuted.map Component.id).nodup_iff.mp same.distinct

theorem Same.find?_eq (same : stamp.Same other) (id : TypeId) :
    stamp.find? id = other.find? id := by
  refine Option.ext fun component => ?_
  rw [same.distinct.find?_eq_some_iff, same.otherDistinct.find?_eq_some_iff,
    same.permuted.mem_iff]

theorem Same.set (same : stamp.Same other) (component : Component) :
    (stamp.set component).Same (other.set component) := by
  refine .of_find? (same.distinct.set component) (same.otherDistinct.set component) fun id => ?_
  rw [find?_set, find?_set, same.find?_eq]

end Stamp

namespace Slots

theorem Ordered.ext {first second : Slots} (ordered : first.Ordered) (other : second.Ordered)
    (same : ∀ id, first.find? id = second.find? id) : first = second := by
  have members : ∀ component, component ∈ first.components ↔ component ∈ second.components := by
    intro component
    rw [ordered.mem_iff, other.mem_iff, same]
  have permuted : first.components.Perm second.components :=
    (List.perm_ext_iff_of_nodup ordered.ids_nodup.of_map other.ids_nodup.of_map).mpr members
  obtain ⟨components⟩ := first
  obtain ⟨others⟩ := second
  refine congrArg Slots.mk (permuted.eq_of_pairwise ?_ ordered other)
  intro component later _ _ smaller larger
  exact absurd larger (UInt64.lt_asymm smaller)

theorem ofStamp_congr {stamp other : Stamp} (same : ∀ id, stamp.last? id = other.last? id) :
    ofStamp stamp = ofStamp other := by
  refine (ordered_ofStamp stamp).ext (ordered_ofStamp other) fun id => ?_
  rw [find?_ofStamp, find?_ofStamp, same]

theorem ofStamp_same {stamp other : Stamp} (same : stamp.Same other) :
    ofStamp stamp = ofStamp other := by
  refine ofStamp_congr fun id => ?_
  rw [same.distinct.last?_eq_find?, same.otherDistinct.last?_eq_find?, same.find?_eq]

theorem ofStamp_set {stamp : Stamp} (distinct : stamp.Distinct) (component : Component) :
    ofStamp (stamp.set component) = (ofStamp stamp).insert component := by
  refine (ordered_ofStamp _).ext ((ordered_ofStamp stamp).insert component) fun id => ?_
  rw [find?_ofStamp, (distinct.set component).last?_eq_find?, Stamp.find?_set, find?_insert,
    find?_ofStamp, distinct.last?_eq_find?]

end Slots
end SceneGraph
