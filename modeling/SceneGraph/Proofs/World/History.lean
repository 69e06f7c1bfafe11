import Mathlib.Data.Finset.Card
import SceneGraph.Proofs.World.Snapshot

/-!
Worlds as the outcome of their histories. The calls that were made on an empty world say by
themselves which entities there are and what each was given, in order; the world has those entities,
and every slot holds what it was given last.
-/
namespace SceneGraph

/-- What is done to a world: a bare entity, an entity with the components of a stamp, or a component
for an entity that may not exist. -/
inductive World.Call where
  | create
  | spawn (stamp : Stamp)
  | assign (entity : Entity) (component : Component)

namespace World.Call

/-- What a call returns, which is an entity if it makes one, and the world that it leaves. -/
def run (world : World) : Call → Except WorldError (Option Entity) × World
  | create => (.ok (some world.create.1), world.create.2)
  | spawn stamp => (.ok (some (world.spawn stamp).1), (world.spawn stamp).2)
  | assign entity component =>
    match world.assign entity component with
    | .ok after => (.ok none, after)
    | .error error => (.error error, world)

def runAll (calls : List Call) : World :=
  calls.foldl (fun world call => (call.run world).2) .empty

def makes : Call → Bool
  | create | spawn _ => true
  | assign _ _ => false

/-- How many entities the calls make. -/
def made (calls : List Call) : Nat := calls.countP makes

/-- What a call gives to an entity where there are entities up to a number. -/
def gift (last : Nat) (entity : Entity) : Call → List Component
  | create => []
  | spawn stamp => if entity.id = last + 1 then stamp.components else []
  | assign target component =>
      if target = entity ∧ 0 < entity.id ∧ entity.id ≤ last then [component] else []

def givenFrom (entity : Entity) : (last : Nat) → List Call → List Component
  | _, [] => []
  | last, call :: rest => call.gift last entity ++ givenFrom entity (last + made [call]) rest

/-- All that an entity is given in the course of the calls, the first value first. -/
def given (calls : List Call) (entity : Entity) : List Component := givenFrom entity 0 calls

/-- The value that was given last among those for a slot. -/
def lastGiven? (calls : List Call) (entity : Entity) (id : TypeId) : Option Component :=
  (given calls entity).reverse.find? fun component => component.id = id

theorem made_append (calls others : List Call) :
    made (calls ++ others) = made calls + made others :=
  List.countP_append

theorem givenFrom_append (entity : Entity) (last : Nat) (calls others : List Call) :
    givenFrom entity last (calls ++ others) =
      givenFrom entity last calls ++ givenFrom entity (last + made calls) others := by
  induction calls generalizing last with
  | nil => rfl
  | cons call rest ih =>
    have counted : made (call :: rest) = made [call] + made rest := made_append [call] rest
    rw [List.cons_append, givenFrom, givenFrom, ih, List.append_assoc, counted, Nat.add_assoc]

theorem given_append_singleton (calls : List Call) (call : Call) (entity : Entity) :
    given (calls ++ [call]) entity = given calls entity ++ call.gift (made calls) entity := by
  rw [given, givenFrom_append, Nat.zero_add, givenFrom, givenFrom, List.append_nil]
  rfl

theorem runAll_append_singleton (calls : List Call) (call : Call) :
    runAll (calls ++ [call]) = (call.run (runAll calls)).2 := by
  simp [runAll]

end World.Call

namespace Slots

theorem mem_ids_iff (slots : Slots) (id : TypeId) :
    id ∈ slots.components.map Component.id ↔ (slots.find? id).isSome := by
  simp [find?]

/-- As many slots are filled as there are different ones in the stamp. -/
theorem size_ofStamp (stamp : Stamp) :
    (ofStamp stamp).size = (stamp.components.map Component.id).toFinset.card := by
  have same : ((ofStamp stamp).components.map Component.id).toFinset =
      (stamp.components.map Component.id).toFinset := by
    ext id
    rw [List.mem_toFinset, List.mem_toFinset, mem_ids_iff, find?_ofStamp, Stamp.isSome_last?]
    simp [Stamp.contains]
  rw [← same, List.toFinset_card_of_nodup (ordered_ofStamp stamp).ids_nodup, List.length_map]
  rfl

end Slots

namespace World

/-- The slots of an entity; none are filled where there is no such entity. -/
def held (world : World) (entity : Entity) : Slots := (world.slots? entity).getD .empty

section Reads
variable (world : World) (entity : Entity)

theorem has_eq_held (type : ComponentType) :
    world.has entity type = (world.held entity).has type := by
  unfold has held
  cases world.slots? entity <;> rfl

theorem get?_eq_held (type : ComponentType) :
    world.get? entity type = (world.held entity).get? type := by
  unfold get? held
  cases world.slots? entity <;> rfl

theorem componentCount_eq_held : world.componentCount entity = (world.held entity).size := by
  unfold componentCount held
  cases world.slots? entity <;> rfl

end Reads

theorem contains_of_assign {world after : World} {entity : Entity} {component : Component}
    (assigned : world.assign entity component = .ok after) : world.contains entity := by
  by_contra absent
  rw [assign, if_neg absent] at assigned
  cases assigned

theorem held_of_absent {world : World} {entity : Entity} (absent : ¬ world.contains entity) :
    world.held entity = .empty := by
  rw [contains, Bool.not_eq_true, Option.isSome_eq_false_iff, Option.isNone_iff_eq_none] at absent
  rw [held, absent, Option.getD_none]

theorem not_contains_next (world : World) : ¬ world.contains world.next := by
  rw [contains_iff]
  exact fun bounds => Nat.not_succ_le_self _ bounds.2

theorem held_spawn (world : World) (stamp : Stamp) (entity : Entity) :
    (world.spawn stamp).2.held entity =
      if entity = world.next then .ofStamp stamp else world.held entity := by
  obtain ⟨rows, rfl⟩ := world.exists_eq_ofRows
  have next : (ofRows rows).next = ⟨rows.length + 1⟩ := rfl
  obtain ⟨number⟩ := entity
  rw [spawn_ofRows, next, held, held]
  cases number with
  | zero => rfl
  | succ index =>
    rw [slots?_ofRows, slots?_ofRows]
    rcases Nat.lt_trichotomy index rows.length with inside | rfl | outside
    · have other : index ≠ rows.length := Nat.ne_of_lt inside
      simp [List.getElem?_append_left inside, other]
    · simp
    · have other : index ≠ rows.length := Nat.ne_of_gt outside
      have missing : rows[index]? = none := List.getElem?_eq_none (Nat.le_of_lt outside)
      have past : (rows ++ [Slots.ofStamp stamp]).length ≤ index := by
        rw [List.length_append]
        exact outside
      simp [List.getElem?_eq_none past, missing, other]

theorem held_assign {world after : World} {target : Entity} {component : Component}
    (assigned : world.assign target component = .ok after) (entity : Entity) :
    after.held entity =
      if target = entity then (world.held entity).insert component else world.held entity := by
  unfold held
  rw [slots?_assign assigned]
  by_cases same : target = entity
  · subst same
    obtain ⟨slots, found⟩ := Option.isSome_iff_exists.mp (contains_of_assign assigned)
    simp [found]
  · simp [same, Ne.symm same]

theorem size_spawn (world : World) (stamp : Stamp) :
    (world.spawn stamp).2.size = world.size + 1 :=
  Array.size_push _

theorem size_assign {world after : World} {target : Entity} {component : Component}
    (assigned : world.assign target component = .ok after) : after.size = world.size := by
  unfold assign at assigned
  split at assigned
  · cases assigned
    exact Array.size_modify
  · cases assigned

end World

namespace World.Call
open World

section Assign
variable {world : World} {entity : Entity} (component : Component)

theorem run_assign_present (present : world.contains entity) :
    ∃ after, world.assign entity component = .ok after ∧
      (assign entity component).run world = (.ok none, after) := by
  have assigned : world.assign entity component = .ok _ := if_pos present
  refine ⟨_, assigned, ?_⟩
  simp only [run, assigned]

theorem run_assign_missing (absent : ¬ world.contains entity) :
    (assign entity component).run world = (.error (.entityNotFound entity), world) := by
  have refused : world.assign entity component = .error (.entityNotFound entity) := if_neg absent
  simp only [run, refused]

end Assign

theorem size_run (world : World) (call : Call) :
    (call.run world).2.size = world.size + made [call] := by
  cases call with
  | create => exact size_spawn world .empty
  | spawn stamp => exact size_spawn world stamp
  | assign entity component =>
    by_cases present : world.contains entity
    · obtain ⟨after, assigned, ran⟩ := run_assign_present component present
      rw [ran]
      exact size_assign assigned
    · rw [run_assign_missing component present]
      rfl

/-- A call gives what it gives to one entity, on top of what that one holds. -/
theorem held_run (world : World) (call : Call) (entity : Entity) :
    (call.run world).2.held entity =
      (call.gift world.size entity).foldl Slots.insert (world.held entity) := by
  have numbered : entity.id = world.size + 1 ↔ entity = world.next := by
    rw [World.next, World.size, Entity.mk.injEq]
  cases call with
  | create =>
    have spawned := held_spawn world .empty entity
    by_cases new : entity = world.next
    · subst new
      rw [if_pos rfl] at spawned
      exact spawned.trans (held_of_absent world.not_contains_next).symm
    · rw [if_neg new] at spawned
      exact spawned
  | spawn stamp =>
    have spawned := held_spawn world stamp entity
    rw [gift]
    by_cases new : entity = world.next
    · rw [if_pos new] at spawned
      rw [if_pos (numbered.mpr new), new, held_of_absent world.not_contains_next, ← new]
      exact spawned
    · rw [if_neg new] at spawned
      rw [if_neg fun same => new (numbered.mp same)]
      exact spawned
  | assign target component =>
    have bounds : world.contains entity ↔ 0 < entity.id ∧ entity.id ≤ world.size := contains_iff
    rw [gift]
    by_cases present : world.contains target
    · obtain ⟨after, assigned, ran⟩ := run_assign_present component present
      rw [ran, held_assign assigned]
      by_cases same : target = entity
      · subst same
        rw [if_pos rfl, if_pos ⟨rfl, bounds.mp present⟩]
        rfl
      · rw [if_neg same, if_neg fun both => same both.1]
        rfl
    · rw [run_assign_missing component present, if_neg]
      · rfl
      · rintro ⟨rfl, inside⟩
        exact present (bounds.mpr inside)

theorem size_runAll (calls : List Call) : (runAll calls).size = made calls := by
  induction calls using List.reverseRecOn with
  | nil => rfl
  | append_singleton earlier last ih =>
    rw [runAll_append_singleton, size_run, ih, made_append]

/-- Every entity holds what it was given, as if a stamp had recorded it all. -/
theorem held_runAll (calls : List Call) (entity : Entity) :
    (runAll calls).held entity = .ofStamp ⟨given calls entity⟩ := by
  induction calls using List.reverseRecOn with
  | nil => exact held_of_absent (not_contains_empty entity)
  | append_singleton earlier last ih =>
    rw [runAll_append_singleton, held_run, ih, size_runAll, given_append_singleton, Slots.ofStamp,
      Slots.ofStamp, List.foldl_append]

end World.Call

/-- What a history says of the world that it leaves: who is there, what every slot holds, and what
the next call will return. -/
structure World.Reflects (world : World) (calls : List Call) : Prop where
  entities_eq : world.entities = (List.range' 1 (Call.made calls)).map Entity.mk
  contains_iff : ∀ entity,
    world.contains entity ↔ 1 ≤ entity.id ∧ entity.id ≤ Call.made calls
  has_iff : ∀ entity type, world.has entity type ↔
    ∃ component ∈ Call.given calls entity, component.id = type.id
  get?_eq : ∀ entity type, world.get? entity type =
    (Call.lastGiven? calls entity type.id).filter fun component => component.type = type
  componentCount_eq : ∀ entity, world.componentCount entity =
    ((Call.given calls entity).map Component.id).toFinset.card
  created : world.create.1 = ⟨Call.made calls + 1⟩
  spawned : ∀ stamp, (world.spawn stamp).1 = ⟨Call.made calls + 1⟩
  assigned : ∀ entity component, 1 ≤ entity.id → entity.id ≤ Call.made calls →
    ∃ after, (Call.assign entity component).run world = (.ok none, after)
  missing : ∀ entity component, ¬ (1 ≤ entity.id ∧ entity.id ≤ Call.made calls) →
    (Call.assign entity component).run world = (.error (.entityNotFound entity), world)

namespace World.Call

/-- A world is what its history says, whatever calls were made in whatever order, those that were
refused included. -/
theorem runAll_reflects (calls : List Call) : (runAll calls).Reflects calls where
  entities_eq := by
    have count : (runAll calls).rows.size = made calls := size_runAll calls
    rw [World.entities, count, List.range'_eq_map_range, List.map_map]
    exact List.map_congr_left fun index _ => congrArg Entity.mk (Nat.add_comm index 1)
  contains_iff entity := by
    rw [World.contains_iff, size_runAll]
    rfl
  has_iff entity type := by
    rw [World.has_eq_held, held_runAll, Slots.has, Slots.find?_ofStamp, Stamp.isSome_last?]
    simp [Stamp.contains]
  get?_eq entity type := by
    rw [World.get?_eq_held, held_runAll, Slots.get?, Slots.find?_ofStamp]
    rfl
  componentCount_eq entity := by
    rw [World.componentCount_eq_held, held_runAll, Slots.size_ofStamp]
  created := congrArg (fun count => Entity.mk (count + 1)) (size_runAll calls)
  spawned _ := congrArg (fun count => Entity.mk (count + 1)) (size_runAll calls)
  assigned entity component positive bounded := by
    have present : (runAll calls).contains entity := by
      rw [World.contains_iff, size_runAll]
      exact ⟨positive, bounded⟩
    obtain ⟨after, _, ran⟩ := run_assign_present component present
    exact ⟨after, ran⟩
  missing entity component outside := by
    apply run_assign_missing
    rw [World.contains_iff, size_runAll]
    exact outside

/-- Two types of one name share a slot: the later value hides the earlier one, and counts once. -/
example :
    let health : CustomType := ⟨"first", "Health"⟩
    let other : CustomType := ⟨"second", "Health"⟩
    let world := runAll [.create, .assign ⟨1⟩ (.custom health (.ok .null)),
      .assign ⟨2⟩ (.custom health (.ok .null)), .assign ⟨1⟩ (.custom other (.ok .null))]
    world.has ⟨1⟩ (.custom health) ∧ (world.get? ⟨1⟩ (.custom health)).isNone ∧
      (world.get? ⟨1⟩ (.custom other)).isSome ∧ world.componentCount ⟨1⟩ = 1 := by
  decide +kernel

end World.Call
end SceneGraph
