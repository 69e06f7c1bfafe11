import Mathlib.Data.List.Induction
import SceneGraph.World.Basic

/-!
Slots as functions from identifiers to values: writing one slot changes that slot only, and the
slots of a stamp hold what was recorded last under each identifier. Worlds as lists of slots.
-/
namespace SceneGraph

namespace Stamp

def last? (stamp : Stamp) (id : TypeId) : Option Component :=
  stamp.components.reverse.find? fun component => component.id = id

/-- No slot is recorded twice. -/
def Distinct (stamp : Stamp) : Prop := (stamp.components.map Component.id).Nodup

theorem isSome_last? (stamp : Stamp) (id : TypeId) :
    (stamp.last? id).isSome = stamp.contains id := by
  rw [last?, List.isSome_find?, List.any_reverse]
  rfl

theorem Distinct.last?_eq_find? {stamp : Stamp} (distinct : stamp.Distinct) (id : TypeId) :
    stamp.last? id = stamp.find? id := by
  obtain ⟨components⟩ := stamp
  unfold last? find?
  induction components with
  | nil => rfl
  | cons first rest ih =>
    obtain ⟨absent, distinct⟩ := List.nodup_cons.mp distinct
    have inner := ih distinct
    simp only [List.reverse_cons, List.find?_append, List.find?_cons, List.find?_nil] at inner ⊢
    rw [inner]
    by_cases same : first.id = id
    · have missing : rest.find? (fun component => component.id = id) = none := by
        apply List.find?_eq_none.mpr
        intro other member equal
        apply absent
        rw [same, ← of_decide_eq_true equal]
        exact List.mem_map_of_mem member
      simp [same, missing]
    · simp [same]

theorem mem_ids_record {component : Component} {components : List Component} {id : TypeId} :
    id ∈ (record component components).map Component.id ↔
      id = component.id ∨ id ∈ components.map Component.id := by
  induction components with
  | nil => simp [record]
  | cons first rest ih =>
    unfold record
    split
    · rename_i same
      simp [same]
    · simp only [List.map_cons, List.mem_cons, ih]
      constructor
      · rintro (equal | equal | member)
        · exact .inr (.inl equal)
        · exact .inl equal
        · exact .inr (.inr member)
      · rintro (equal | equal | member)
        · exact .inr (.inl equal)
        · exact .inl equal
        · exact .inr (.inr member)

theorem find?_set (stamp : Stamp) (component : Component) (id : TypeId) :
    (stamp.set component).find? id =
      if id = component.id then some component else stamp.find? id := by
  obtain ⟨components⟩ := stamp
  unfold find? Stamp.set
  induction components with
  | nil => by_cases same : id = component.id <;> simp [record, same, eq_comm]
  | cons first rest ih =>
    unfold record
    split
    · rename_i equal
      by_cases same : id = component.id
      · simp [same]
      · simp [same, Ne.symm same, equal]
    · rename_i different
      by_cases found : first.id = id
      · have other : id ≠ component.id := fun same => different (found.trans same)
        simp [found, other]
      · simpa [found] using ih

theorem mem_record {component other : Component} {components : List Component}
    (member : other ∈ record component components) : other = component ∨ other ∈ components := by
  induction components with
  | nil => exact .inl (List.mem_singleton.mp member)
  | cons first rest ih =>
    unfold record at member
    split at member
    · exact (List.mem_cons.mp member).imp_right (List.mem_cons_of_mem first)
    · rcases List.mem_cons.mp member with rfl | inside
      · exact .inr List.mem_cons_self
      · exact (ih inside).imp_right (List.mem_cons_of_mem first)

theorem Distinct.set {stamp : Stamp} (distinct : stamp.Distinct) (component : Component) :
    (stamp.set component).Distinct := by
  obtain ⟨components⟩ := stamp
  unfold Distinct Stamp.set at *
  induction components with
  | nil => simp [record]
  | cons first rest ih =>
    obtain ⟨absent, distinct⟩ := List.nodup_cons.mp distinct
    unfold record
    split
    · rename_i same
      rw [same] at absent
      exact List.nodup_cons.mpr ⟨absent, distinct⟩
    · rename_i different
      refine List.nodup_cons.mpr ⟨?_, ih distinct⟩
      intro member
      rcases mem_ids_record.mp member with equal | inside
      · exact different equal
      · exact absent inside

theorem distinct_ofList (components : List Component) : (ofList components).Distinct := by
  suffices grows : ∀ (components : List Component) (stamp : Stamp), stamp.Distinct →
      (components.foldl Stamp.set stamp).Distinct from
    grows components empty List.nodup_nil
  intro components
  induction components with
  | nil => exact fun _ distinct => distinct
  | cons first rest ih => exact fun _ distinct => ih _ (distinct.set first)

end Stamp

namespace Slots

theorem find?_insert (slots : Slots) (component : Component) (id : TypeId) :
    (slots.insert component).find? id =
      if id = component.id then some component else slots.find? id := by
  obtain ⟨components⟩ := slots
  unfold find? insert
  induction components with
  | nil => by_cases same : id = component.id <;> simp [place, same, eq_comm]
  | cons first rest ih =>
    unfold place
    split
    · by_cases same : id = component.id
      · simp [same]
      · simp [same, Ne.symm same]
    · split
      · rename_i equal
        by_cases same : id = component.id
        · simp [same]
        · have other : first.id ≠ id := fun found => same (found.symm.trans equal)
          simp [same, Ne.symm same, other]
      · rename_i different
        by_cases found : first.id = id
        · have other : id ≠ component.id := fun same => different (found.trans same)
          simp [found, other]
        · simpa [found] using ih

theorem find?_ofStamp (stamp : Stamp) (id : TypeId) :
    (ofStamp stamp).find? id = stamp.last? id := by
  obtain ⟨components⟩ := stamp
  unfold ofStamp Stamp.last?
  induction components using List.reverseRecOn with
  | nil => rfl
  | append_singleton earlier component ih =>
    rw [List.foldl_append, List.foldl_cons, List.foldl_nil, find?_insert, ih]
    by_cases same : id = component.id
    · simp [same]
    · simp [same, Ne.symm same]

/-- The slots with real time, if they hold no time scale. -/
def timed (slots : Slots) : Slots :=
  if slots.has .timeScale then slots else slots.insert (.timeScale .realTime)

theorem find?_timed (slots : Slots) (id : TypeId) :
    slots.timed.find? id =
      if id = ComponentType.timeScale.id ∧ (slots.find? id).isNone then
        some (.timeScale .realTime)
      else slots.find? id := by
  unfold timed has
  cases held : slots.find? ComponentType.timeScale.id with
  | some value =>
    by_cases same : id = ComponentType.timeScale.id
    · subst same
      simp [held]
    · simp [same]
  | none =>
    rw [Option.isSome_none, if_neg Bool.false_ne_true, find?_insert]
    have own : (Component.timeScale .realTime).id = ComponentType.timeScale.id := rfl
    by_cases same : id = ComponentType.timeScale.id
    · subst same
      simp [held, own]
    · simp [same, own]

end Slots

namespace World

def ofRows (rows : List Slots) : World := ⟨rows.toArray⟩

theorem exists_eq_ofRows (world : World) : ∃ rows, world = ofRows rows :=
  ⟨world.rows.toList, rfl⟩

theorem ofRows_nil : ofRows [] = empty := rfl

theorem size_ofRows (rows : List Slots) : (ofRows rows).size = rows.length := rfl

theorem slots?_ofRows (rows : List Slots) (index : Nat) :
    (ofRows rows).slots? ⟨index + 1⟩ = rows[index]? := by
  simp [slots?, ofRows]

theorem contains_ofRows {rows : List Slots} {entity : Entity} :
    (ofRows rows).contains entity ↔ 0 < entity.id ∧ entity.id ≤ rows.length := by
  obtain ⟨number⟩ := entity
  cases number with
  | zero => simp [contains, slots?]
  | succ index =>
    rw [contains, slots?_ofRows, Option.isSome_iff_ne_none, ne_eq, List.getElem?_eq_none_iff]
    dsimp only
    omega

theorem contains_iff {world : World} {entity : Entity} :
    world.contains entity ↔ 0 < entity.id ∧ entity.id ≤ world.size := by
  obtain ⟨rows, rfl⟩ := world.exists_eq_ofRows
  exact contains_ofRows

theorem not_contains_empty (entity : Entity) : ¬ empty.contains entity := by
  intro present
  have bounds := contains_iff.mp present
  exact absurd (Nat.lt_of_lt_of_le bounds.1 bounds.2) (Nat.lt_irrefl 0)

theorem slots?_append {old : List Slots} {entity : Entity} (made : List Slots)
    (contained : (ofRows old).contains entity) :
    (ofRows (old ++ made)).slots? entity = (ofRows old).slots? entity := by
  obtain ⟨number⟩ := entity
  cases number with
  | zero => rfl
  | succ index =>
    rw [contains, slots?_ofRows] at contained
    obtain ⟨row, found⟩ := Option.isSome_iff_exists.mp contained
    rw [slots?_ofRows, slots?_ofRows]
    exact List.getElem?_append_left (List.getElem?_eq_some_iff.mp found).1

theorem spawn_ofRows (rows : List Slots) (stamp : Stamp) :
    (ofRows rows).spawn stamp = (⟨rows.length + 1⟩, ofRows (rows ++ [.ofStamp stamp])) := by
  simp [spawn, add, next, ofRows]

theorem assign_ofRows (old : List Slots) (row : Slots) (rest : List Slots)
    (component : Component) :
    (ofRows (old ++ row :: rest)).assign ⟨old.length + 1⟩ component =
      .ok (ofRows (old ++ row.insert component :: rest)) := by
  have present : (ofRows (old ++ row :: rest)).contains ⟨old.length + 1⟩ := by
    rw [contains, slots?_ofRows]
    simp
  have written : (old ++ row :: rest).modify old.length (fun slots => slots.insert component) =
      old ++ row.insert component :: rest := by
    rw [List.modify_eq_take_cons_drop (by simp)]
    simp
  rw [assign, if_pos present]
  simp [ofRows, written]

theorem has_ofRows (old : List Slots) (row : Slots) (rest : List Slots) (type : ComponentType) :
    (ofRows (old ++ row :: rest)).has ⟨old.length + 1⟩ type = row.has type := by
  rw [has, slots?_ofRows]
  simp

theorem slots?_assign {world after : World} {entity : Entity} {component : Component}
    (assigned : world.assign entity component = .ok after) (other : Entity) :
    after.slots? other = if other = entity then
      (world.slots? other).map fun slots => slots.insert component else world.slots? other := by
  unfold assign at assigned
  split at assigned
  · rename_i present
    cases assigned
    have positive : entity.id ≠ 0 := by
      intro zero
      simp [contains, slots?, zero] at present
    unfold slots?
    rw [Array.getElem?_modify]
    by_cases same : other = entity
    · subst same
      simp [positive]
    · have apart : other.id ≠ entity.id := fun equal => same (congrArg Entity.mk equal)
      by_cases zero : other.id = 0
      · simp [zero, same]
      · have shifted : entity.id - 1 ≠ other.id - 1 := by omega
        simp [zero, same, shifted]
  · cases assigned

end World
end SceneGraph
