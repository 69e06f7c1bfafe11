import Mathlib.Data.List.Nodup
import SceneGraph.Proofs.Text.Order
import SceneGraph.Proofs.World.Slots
import SceneGraph.World.Snapshot

/-!
Snapshots. A table is kept in the order of the slots' hashes, so every slot is in it once; different
slots have different names, so the order by name is strict. A snapshot shows every value, or names
the first one in that order that has no JSON form.
-/
namespace SceneGraph

namespace Slots

def Ordered (slots : Slots) : Prop :=
  slots.components.Pairwise fun first second => first.id.hash < second.id.hash

theorem mem_place {component other : Component} {components : List Component}
    (member : other ∈ place component components) : other = component ∨ other ∈ components := by
  induction components with
  | nil => exact .inl (List.mem_singleton.mp member)
  | cons first rest ih =>
    unfold place at member
    split at member
    · exact List.mem_cons.mp member
    · split at member
      · exact (List.mem_cons.mp member).imp_right (List.mem_cons_of_mem first)
      · rcases List.mem_cons.mp member with rfl | inside
        · exact .inr List.mem_cons_self
        · exact (ih inside).imp_right (List.mem_cons_of_mem first)

theorem ordered_empty : empty.Ordered := .nil

theorem Ordered.insert {slots : Slots} (ordered : slots.Ordered) (component : Component) :
    (slots.insert component).Ordered := by
  obtain ⟨components⟩ := slots
  unfold Ordered Slots.insert at *
  induction components with
  | nil => exact List.pairwise_singleton _ _
  | cons first rest ih =>
    obtain ⟨smallest, later⟩ := List.pairwise_cons.mp ordered
    unfold place
    split
    · rename_i smaller
      refine .cons (fun other member => ?_) ordered
      rcases List.mem_cons.mp member with rfl | inside
      · exact smaller
      · exact UInt64.lt_trans smaller (smallest other inside)
    · split
      · rename_i same
        exact .cons (fun other inside => same ▸ smallest other inside) later
      · rename_i notSmaller different
        refine .cons (fun other member => ?_) (ih later)
        rcases mem_place member with rfl | inside
        · refine UInt64.lt_of_le_of_ne (UInt64.not_lt.mp notSmaller) fun equal => different ?_
          exact congrArg TypeId.mk equal
        · exact smallest other inside

theorem ordered_ofStamp (stamp : Stamp) : (ofStamp stamp).Ordered := by
  obtain ⟨components⟩ := stamp
  unfold ofStamp
  induction components using List.reverseRecOn with
  | nil => exact ordered_empty
  | append_singleton earlier component ih =>
    rw [List.foldl_append]
    exact ih.insert component

theorem Ordered.timed {slots : Slots} (ordered : slots.Ordered) : slots.timed.Ordered := by
  unfold Slots.timed
  split
  · exact ordered
  · exact ordered.insert _

section Ordered
variable {slots : Slots} {component : Component} (ordered : slots.Ordered)
include ordered

theorem Ordered.ids_nodup : (slots.components.map Component.id).Nodup := by
  refine List.pairwise_map.mpr (ordered.imp fun smaller same => ?_)
  exact UInt64.ne_of_lt smaller (congrArg TypeId.hash same)

theorem Ordered.mem_iff :
    component ∈ slots.components ↔ slots.find? component.id = some component := by
  constructor
  · intro member
    unfold find?
    cases found : slots.components.find? fun other => other.id = component.id with
    | none =>
      have missed := List.find?_eq_none.mp found component member
      exact absurd (decide_eq_true rfl) missed
    | some other =>
      have same : other.id = component.id := of_decide_eq_true (List.find?_some found :)
      exact congrArg some (List.inj_on_of_nodup_map ordered.ids_nodup
        (List.mem_of_find?_eq_some found) member same)
  · exact List.mem_of_find?_eq_some

end Ordered

theorem id_of_find? {slots : Slots} {id : TypeId} {component : Component}
    (found : slots.find? id = some component) : component.id = id :=
  of_decide_eq_true (List.find?_some found :)

theorem perm_placeByName (component : Component) (components : List Component) :
    (placeByName component components).Perm (component :: components) := by
  induction components with
  | nil => exact .refl _
  | cons first rest ih =>
    unfold placeByName
    split
    · exact .refl _
    · exact (ih.cons first).trans (.swap component first rest)

theorem perm_sortByName (components : List Component) :
    (sortByName components).Perm components := by
  induction components with
  | nil => exact .nil
  | cons first rest ih => exact (perm_placeByName first _).trans (ih.cons first)

theorem placeByName_ascending (component : Component) {components : List Component}
    (ascending : components.Pairwise fun first second => first.typeName ≤ second.typeName) :
    (placeByName component components).Pairwise
      fun first second => first.typeName ≤ second.typeName := by
  induction components with
  | nil => exact List.pairwise_singleton _ _
  | cons first rest ih =>
    obtain ⟨smallest, later⟩ := List.pairwise_cons.mp ascending
    unfold placeByName
    split
    · rename_i smaller
      refine .cons (fun other member => ?_) ascending
      rcases List.mem_cons.mp member with rfl | inside
      · exact le_of_lt smaller
      · exact le_trans (le_of_lt smaller) (smallest other inside)
    · rename_i notSmaller
      refine .cons (fun other member => ?_) (ih later)
      rcases List.mem_cons.mp ((perm_placeByName component rest).mem_iff.mp member) with
        rfl | inside
      · exact not_lt.mp notSmaller
      · exact smallest other inside

theorem sortByName_ascending (components : List Component) :
    (sortByName components).Pairwise fun first second => first.typeName ≤ second.typeName := by
  induction components with
  | nil => exact .nil
  | cons first rest ih => exact placeByName_ascending first ih

theorem Ordered.byName_ascending {slots : Slots} (ordered : slots.Ordered) :
    slots.byName.Pairwise fun first second => first.typeName < second.typeName := by
  have ids : (slots.byName.map Component.id).Nodup :=
    ((perm_sortByName slots.components).map Component.id).nodup_iff.mpr ordered.ids_nodup
  have distinct := List.pairwise_map.mp ids
  refine ((sortByName_ascending slots.components).and distinct).imp fun ⟨small, apart⟩ => ?_
  exact lt_of_le_of_ne small fun same => apart (congrArg TypeId.ofName same)

end Slots

namespace World

variable {entity : Entity} {components : List Component}

theorem snapshotMembers_ok {members : List (String × Json)}
    (shown : snapshotMembers entity components = .ok members) :
    members.map Prod.fst = components.map Component.typeName ∧
      (∀ component ∈ components, ∃ value, component.toJson = .ok value) ∧
      ∀ name value, (name, value) ∈ members ↔
        ∃ component ∈ components, component.typeName = name ∧ component.toJson = .ok value := by
  induction components generalizing members with
  | nil =>
    cases shown
    exact ⟨rfl, List.forall_mem_nil _, fun _ _ => by simp⟩
  | cons component rest ih =>
    unfold snapshotMembers at shown
    cases made : component.toJson with
    | error reason =>
      rw [made] at shown
      cases shown
    | ok json =>
      rw [made] at shown
      cases later : snapshotMembers entity rest with
      | error error =>
        rw [later] at shown
        cases shown
      | ok others =>
        rw [later] at shown
        cases shown
        obtain ⟨names, fine, members⟩ := ih later
        refine ⟨congrArg (component.typeName :: ·) names,
          List.forall_mem_cons.mpr ⟨⟨json, made⟩, fine⟩, fun name value => ?_⟩
        rw [List.mem_cons, members, List.exists_mem_cons_iff, made, Prod.mk.injEq,
          Except.ok.injEq, eq_comm, @eq_comm _ value]

theorem snapshotMembers_error {error : WorldError}
    (failed : snapshotMembers entity components = .error error) :
    ∃ before refused after reason, components = before ++ refused :: after ∧
      (∀ component ∈ before, ∃ value, component.toJson = .ok value) ∧
      refused.toJson = .error reason ∧
      error = .unserialisable entity refused.typeName reason := by
  induction components with
  | nil => cases failed
  | cons component rest ih =>
    unfold snapshotMembers at failed
    cases value : component.toJson with
    | error reason =>
      rw [value] at failed
      cases failed
      exact ⟨[], component, rest, reason, rfl, by simp, value, rfl⟩
    | ok json =>
      rw [value] at failed
      cases later : snapshotMembers entity rest with
      | ok others =>
        rw [later] at failed
        cases failed
      | error fault =>
        rw [later] at failed
        cases failed
        obtain ⟨before, refused, after, reason, rfl, fine, why, same⟩ := ih later
        refine ⟨component :: before, refused, after, reason, rfl, ?_, why, same⟩
        exact List.forall_mem_cons.mpr ⟨⟨json, value⟩, fine⟩

end World

namespace Slots

/-- The members of a snapshot: the components with a JSON form, all of them, in the order of the
bytes of their names. -/
structure Shows (slots : Slots) (members : List (String × Json)) : Prop where
  ascending : members.Pairwise fun first second => Text.bytes first.1 < Text.bytes second.1
  mem_iff : ∀ name value, (name, value) ∈ members ↔ ∃ id component,
    slots.find? id = some component ∧ component.typeName = name ∧ component.toJson = .ok value

def Serialises (slots : Slots) : Prop :=
  ∀ id component, slots.find? id = some component → ∃ value, component.toJson = .ok value

/-- The fault of a snapshot: that of the component without a JSON form of the smallest name. -/
def Refuses (slots : Slots) (entity : Entity) (error : WorldError) : Prop :=
  ∃ id component reason, slots.find? id = some component ∧ component.toJson = .error reason ∧
    error = .unserialisable entity component.typeName reason ∧
    ∀ otherId other, slots.find? otherId = some other →
      (∃ otherReason, other.toJson = .error otherReason) →
        ¬ Text.bytes other.typeName < Text.bytes component.typeName

namespace Ordered
variable {slots : Slots} {entity : Entity} (ordered : slots.Ordered)
include ordered

theorem mem_byName {component : Component} :
    component ∈ slots.byName ↔ slots.find? component.id = some component :=
  (perm_sortByName slots.components).mem_iff.trans ordered.mem_iff

theorem mem_byName_of_find? {id : TypeId} {component : Component}
    (held : slots.find? id = some component) : component ∈ slots.byName := by
  rw [ordered.mem_byName, id_of_find? held]
  exact held

theorem shows {members : List (String × Json)}
    (shown : World.snapshotMembers entity slots.byName = .ok members) :
    slots.Shows members ∧ slots.Serialises := by
  obtain ⟨names, fine, listed⟩ := World.snapshotMembers_ok shown
  have ascending : (members.map Prod.fst).Pairwise (· < ·) :=
    names ▸ List.pairwise_map.mpr ordered.byName_ascending
  refine ⟨⟨?_, fun name value => ?_⟩, fun id component held =>
    fine component (ordered.mem_byName_of_find? held)⟩
  · exact (List.pairwise_map.mp ascending).imp Text.lt_iff_bytes.mp
  · rw [listed]
    constructor
    · rintro ⟨component, member, shows⟩
      exact ⟨_, component, ordered.mem_byName.mp member, shows⟩
    · rintro ⟨id, component, held, shows⟩
      exact ⟨component, ordered.mem_byName_of_find? held, shows⟩

theorem refuses {error : WorldError}
    (failed : World.snapshotMembers entity slots.byName = .error error) :
    slots.Refuses entity error := by
  obtain ⟨before, refused, after, reason, split, fine, why, rfl⟩ :=
    World.snapshotMembers_error failed
  have member : refused ∈ slots.byName := by
    rw [split]
    exact List.mem_append_right _ List.mem_cons_self
  refine ⟨_, refused, reason, ordered.mem_byName.mp member, why, rfl, ?_⟩
  rintro otherId other held ⟨otherReason, otherWhy⟩ smaller
  have listed := ordered.mem_byName_of_find? held
  have ascending := ordered.byName_ascending
  rw [split] at listed ascending
  -- The components before the refused one have JSON forms, those behind it have larger names.
  rcases List.mem_append.mp listed with earlier | later
  · obtain ⟨value, serialised⟩ := fine other earlier
    cases serialised.symm.trans otherWhy
  · rcases List.mem_cons.mp later with rfl | behind
    · exact List.lt_irrefl _ smaller
    · have larger := (List.pairwise_cons.mp (List.pairwise_append.mp ascending).2.1).1 other behind
      exact List.lt_asymm smaller (Text.lt_iff_bytes.mp larger)

end Ordered
end Slots

theorem World.snapshot_of_slots {world : World} {entity : Entity} {slots : Slots}
    (found : world.slots? entity = some slots) :
    world.snapshot entity = (snapshotMembers entity slots.byName).map .object := by
  rw [snapshot, components, found]
  rfl

end SceneGraph
