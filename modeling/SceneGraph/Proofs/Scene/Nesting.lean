import SceneGraph.Proofs.Scene.Dump
import SceneGraph.Proofs.Scene.Success

/-!
How deep blueprints nest. A group dissolves a level, a template's root counts one below its place of
use and takes the children from there, so a forest is never higher than the nesting of nodes that a
builder accepts. Counting, instantiating and dumping therefore recur at most that deep.
-/
namespace SceneGraph
open Setting

/-- The value of a recursion at an input is found within so many levels, whatever is below them. -/
def Unrolls {α β : Type} (step : (α → β) → α → β) (levels : Nat) (input : α) (value : β) : Prop :=
  ∀ bottom, step^[levels] bottom input = value

/-- A recursion to inputs of lower rank unrolls as often as the rank says. -/
theorem unrolls_of_rank {α β : Type} {step : (α → β) → α → β} {value : α → β} (rank : α → Nat)
    (positive : ∀ input, 0 < rank input)
    (falls : ∀ recur input, (∀ lower, rank lower < rank input → recur lower = value lower) →
      step recur input = value input)
    {levels : Nat} {input : α} (enough : rank input ≤ levels) :
    Unrolls step levels input (value input) := by
  intro bottom
  induction levels generalizing input with
  | zero =>
    have above := positive input
    omega
  | succ levels ih =>
    rw [Function.iterate_succ_apply']
    apply falls
    intro lower less
    exact ih (by omega)

theorem mapM_congr {m : Type → Type} [Monad m] [LawfulMonad m] {α β : Type}
    {first second : α → m β} {items : List α} (same : ∀ item ∈ items, first item = second item) :
    items.mapM first = items.mapM second := by
  induction items with
  | nil => rfl
  | cons item rest ih =>
    rw [List.forall_mem_cons] at same
    rw [List.mapM_cons, List.mapM_cons, same.1, ih same.2]

namespace Blueprint

theorem height_eq (blueprint : Blueprint) :
    blueprint.height = 1 + forestHeight blueprint.children := by
  cases blueprint
  rw [height]

theorem entityCount_eq (blueprint : Blueprint) :
    blueprint.entityCount = 1 + (blueprint.children.map entityCount).foldr (· + ·) 0 := by
  have counted : ∀ blueprints,
      forestCount blueprints = (blueprints.map entityCount).foldr (· + ·) 0 := by
    intro blueprints
    induction blueprints with
    | nil => rfl
    | cons blueprint blueprints ih => rw [forestCount, ih, List.map_cons, List.foldr_cons]
  cases blueprint
  rw [entityCount, counted]

theorem forestHeight_le {limit : Nat} {blueprints : List Blueprint} :
    forestHeight blueprints ≤ limit ↔ ∀ blueprint ∈ blueprints, blueprint.height ≤ limit := by
  induction blueprints with
  | nil => simp [forestHeight]
  | cons blueprint blueprints ih =>
    rw [forestHeight, Nat.max_le, ih, List.forall_mem_cons]

theorem height_le {limit : Nat} {blueprint : Blueprint} :
    blueprint.height ≤ limit + 1 ↔ ∀ child ∈ blueprint.children, child.height ≤ limit := by
  rw [height_eq, Nat.add_comm, Nat.add_le_add_iff_right, forestHeight_le]

theorem height_pos (blueprint : Blueprint) : 0 < blueprint.height := by
  rw [height_eq]
  omega

theorem height_child {blueprint child : Blueprint} (member : child ∈ blueprint.children) :
    child.height < blueprint.height := by
  have bound := forestHeight_le.mp (Nat.le_refl _) child member
  rw [height_eq blueprint]
  omega

theorem height_empty : empty.height = 1 := rfl

end Blueprint

namespace Setting

variable {setting : Setting} {expanding : Finset String} {name : String} {levels : Nat}
  {forest : List Blueprint}

/-- One level of nodes adds at most one to the height of the forests below. -/
theorem height_made {visit : Finset String → String → Tree → Except BuildError (List Blueprint)}
    (visits : ∀ {expanding name tree own}, visit expanding name tree = .ok own →
      ∀ blueprint ∈ own, blueprint.height ≤ levels)
    {declaration : Declaration} (made : Made setting visit expanding name declaration forest) :
    ∀ blueprint ∈ forest, blueprint.height ≤ levels + 1 := by
  intro blueprint member
  cases made with
  | entity below =>
    rw [List.mem_singleton] at member
    rw [member, Blueprint.height_le]
    exact forall_inOrder visits below
  | group below =>
    obtain ⟨inner, inside, rfl⟩ := List.mem_map.mp member
    have bound := forall_inOrder visits below inner inside
    rw [Blueprint.height_eq] at bound ⊢
    exact Nat.le_succ_of_le bound
  | sourceless children =>
    rw [List.mem_singleton] at member
    rw [member, Blueprint.height_empty]
    omega
  | rootless children fresh answered rootless =>
    rw [List.mem_singleton] at member
    rw [member, Blueprint.height_empty]
    omega
  | @expanded _ _ _ _ roots _ fresh answered rooted built below =>
    rw [List.mem_singleton] at member
    rw [member, Blueprint.height_le]
    -- The root counts one level below its usage, and its children are lower than itself.
    intro child listed
    rcases List.mem_append.mp listed with inner | added
    · cases roots with
      | nil => cases inner
      | cons root rest =>
        have bound := visits built root List.mem_cons_self
        have lower : child.height < root.height := Blueprint.height_child inner
        omega
    · exact forall_inOrder visits below child added

theorem height_nodeForest {tree : Tree}
    (built : setting.nodeForest levels expanding name tree = .ok forest) :
    ∀ blueprint ∈ forest, blueprint.height ≤ levels :=
  nodeForest_induction (fun levels _ _ forest => ∀ blueprint ∈ forest, blueprint.height ≤ levels)
    (fun _ => List.forall_mem_nil _) (fun visits _ made => height_made visits made) built

theorem height_forest {tree : Tree} (built : setting.forest tree = .ok forest) :
    ∀ blueprint ∈ forest, blueprint.height ≤ setting.maxDepth :=
  forall_inOrder height_nodeForest built

end Setting

namespace Blueprint
open Populate

/-- One level of counting. -/
def countStep (recur : Blueprint → Nat) (blueprint : Blueprint) : Nat :=
  1 + (blueprint.children.map recur).foldr (· + ·) 0

def instantiateChild (recur : Blueprint → Populate Entity) (parent : Entity)
    (child : Blueprint) : Populate Entity := do
  let entity ← recur child
  assign entity (.parent parent)
  return entity

/-- One level of instantiating. -/
def instantiateStep (recur : Blueprint → Populate Entity) (blueprint : Blueprint) :
    Populate Entity := do
  let entity ← spawn blueprint.stamp
  record entity blueprint.name?
  ensureTimeScale entity
  let children ← blueprint.children.mapM (instantiateChild recur entity)
  report [.instantiated entity children.length]
  assign entity (.children children)
  return entity

theorem instantiateChildren_eq (parent : Entity) (blueprints : List Blueprint) :
    instantiateChildren parent blueprints =
      blueprints.mapM (instantiateChild instantiate parent) := by
  induction blueprints with
  | nil => rw [instantiateChildren, List.mapM_nil]
  | cons child rest ih =>
    rw [instantiateChildren, List.mapM_cons, ih]
    simp only [instantiateChild, bind_assoc, pure_bind]

theorem countStep_entityCount : countStep entityCount = entityCount := by
  funext blueprint
  exact (entityCount_eq blueprint).symm

theorem instantiateStep_instantiate : instantiateStep instantiate = instantiate := by
  funext blueprint
  cases blueprint
  simp only [instantiate, instantiateStep, name?, instantiateChildren_eq]

theorem unrolls_entityCount {levels : Nat} {blueprint : Blueprint}
    (enough : blueprint.height ≤ levels) :
    Unrolls countStep levels blueprint blueprint.entityCount := by
  refine unrolls_of_rank height height_pos (fun recur input falls => ?_) enough
  have same : input.children.map recur = input.children.map entityCount :=
    List.map_congr_left fun child member => falls child (height_child member)
  rw [countStep, same]
  exact congrFun countStep_entityCount input

theorem unrolls_instantiate {levels : Nat} {blueprint : Blueprint}
    (enough : blueprint.height ≤ levels) :
    Unrolls instantiateStep levels blueprint blueprint.instantiate := by
  refine unrolls_of_rank height height_pos (fun recur input falls => ?_) enough
  have same : ∀ entity, input.children.mapM (instantiateChild recur entity) =
      input.children.mapM (instantiateChild instantiate entity) := by
    intro entity
    apply mapM_congr
    intro child member
    rw [instantiateChild, falls child (height_child member)]
    rfl
  simp only [instantiateStep, same]
  exact congrFun instantiateStep_instantiate input

end Blueprint

namespace World

/-- One level of a dump. -/
def dumpStep (world : World) (recur : Entity → Except DumpError Json) (entity : Entity) :
    Except DumpError Json :=
  match world.snapshot entity with
  | .error error => .error (.world error)
  | .ok components =>
    match (world.childrenOf entity).mapM recur with
    | .error error => .error error
    | .ok children =>
      .ok (.object [("entity", .natural entity.id), ("components", components),
        ("children", .array children)])

/-- The second recursion does what the first one does wherever that comes to an end. -/
def Continues (first second : Entity → Except DumpError Json) : Prop :=
  ∀ entity, (∃ last, first entity = .error (.endless last)) ∨ second entity = first entity

variable {world : World}

theorem dumpWithin_eq_iterate (world : World) (levels : Nat) :
    world.dumpWithin levels = world.dumpStep^[levels] fun entity => .error (.endless entity) := by
  induction levels with
  | zero => rfl
  | succ levels ih =>
    rw [Function.iterate_succ_apply', ← ih]
    rfl

theorem Continues.mapM {first second : Entity → Except DumpError Json}
    (continues : Continues first second) (entities : List Entity) :
    (∃ last, entities.mapM first = .error (.endless last)) ∨
      entities.mapM second = entities.mapM first := by
  induction entities with
  | nil => exact .inr rfl
  | cons entity rest ih =>
    rw [List.mapM_cons, List.mapM_cons]
    rcases continues entity with ⟨last, ended⟩ | same
    · rw [ended]
      exact .inl ⟨last, rfl⟩
    · rw [same]
      cases first entity with
      | error error => exact .inr rfl
      | ok dump =>
        rcases ih with ⟨last, ended⟩ | same
        · rw [ended]
          exact .inl ⟨last, rfl⟩
        · rw [same]
          exact .inr rfl

theorem Continues.step {first second : Entity → Except DumpError Json}
    (continues : Continues first second) :
    Continues (world.dumpStep first) (world.dumpStep second) := by
  intro entity
  unfold dumpStep
  cases world.snapshot entity with
  | error error => exact .inr rfl
  | ok components =>
    rcases continues.mapM (world.childrenOf entity) with ⟨last, ended⟩ | same
    · rw [ended]
      exact .inl ⟨last, rfl⟩
    · rw [same]
      exact .inr rfl

theorem continues_dumpWithin (world : World) (levels : Nat)
    (bottom : Entity → Except DumpError Json) :
    Continues (world.dumpWithin levels) (world.dumpStep^[levels] bottom) := by
  rw [dumpWithin_eq_iterate]
  induction levels with
  | zero => exact fun entity => .inl ⟨entity, rfl⟩
  | succ levels ih =>
    rw [Function.iterate_succ_apply', Function.iterate_succ_apply']
    exact ih.step

/-- A hierarchy whose dump ends within some levels needs no more of them. -/
theorem unrolls_dump {levels : Nat} {entity : Entity} {result : Except WorldError Json}
    (ended : world.dumpWithin levels entity = result.mapError .world) :
    Unrolls world.dumpStep levels entity (result.mapError .world) := by
  intro bottom
  rcases world.continues_dumpWithin levels bottom entity with ⟨last, endless⟩ | same
  · rw [endless] at ended
    cases result <;> cases ended
  · rw [same, ended]

/-- The entities of a blueprint stay where they were made, whatever is instantiated later. -/
theorem holds_instantiated (world : World) (blueprint : Blueprint) :
    ∃ after, world.instantiate blueprint = (.ok world.next, after) ∧
      ∀ calls, (Instantiation.runAll after.world calls).Holds
          (blueprint.placements none world.next.id) ∧
        blueprint.entityCount ≤ (Instantiation.runAll after.world calls).size := by
  obtain ⟨rows, rfl⟩ := world.exists_eq_ofRows
  obtain ⟨index, log, ran⟩ := blueprint.makes_placements rows none #[]
  refine ⟨_, ran, fun calls => ?_⟩
  obtain ⟨later, grown⟩ := Instantiation.runAll_ofRows calls
    (rows ++ (blueprint.placements none (rows.length + 1)).map Placement.slots)
  rw [grown]
  refine ⟨holds_ofRows (blueprint.entities_placements none _) later, ?_⟩
  rw [size_ofRows, List.length_append, List.length_append, List.length_map,
    Blueprint.length_placements]
  omega

end World

namespace Blueprint

/-- The blueprint is no higher than the limit, and the recursions on it and on the entities that it
becomes, in any world and after whatever is instantiated later, go no deeper. -/
structure Within (limit : Nat) (blueprint : Blueprint) : Prop where
  height_le : blueprint.height ≤ limit
  counting : Unrolls countStep limit blueprint blueprint.entityCount
  instantiating : Unrolls instantiateStep limit blueprint blueprint.instantiate
  dumping : ∀ world : World, ∃ root after, world.instantiate blueprint = (.ok root, after) ∧
    ∀ calls, let later := Instantiation.runAll after.world calls
      Unrolls later.dumpStep limit root (later.dump root)

theorem within_of_height {limit : Nat} {blueprint : Blueprint} (low : blueprint.height ≤ limit) :
    blueprint.Within limit where
  height_le := low
  counting := unrolls_entityCount low
  instantiating := unrolls_instantiate low
  dumping world := by
    obtain ⟨after, ran, stays⟩ := world.holds_instantiated blueprint
    refine ⟨world.next, after, ran, fun calls => ?_⟩
    obtain ⟨holds, enough⟩ := stays calls
    intro later
    have mirrored : later.dumpWithin limit world.next = _ :=
      blueprint.dumpWithin_mirror none world.next.id holds low
    have dumped : later.dump world.next = _ :=
      blueprint.dumpWithin_mirror none world.next.id holds
        (Nat.le_succ_of_le (Nat.le_trans blueprint.height_le_entityCount enough))
    rw [dumped]
    exact World.unrolls_dump mirrored

end Blueprint

/-- Whatever the loader answers and whatever was built before, the blueprints that a builder returns
are within the nesting that it accepts; a builder that accepts none returns none. -/
theorem Builder.forests_within_limit {σ : Type} {builder : Builder σ} {progress : Progress σ}
    (reached : builder.Reachable progress) {forest : List Blueprint}
    (built : (∃ tree, builder.outcome progress tree = .ok forest) ∨
      ∃ name, ((builder.buildScene name).run.run progress).1 = .ok forest) :
    (∀ blueprint ∈ forest, blueprint.Within builder.maxDepth) ∧
      (builder.maxDepth = 0 → forest = []) := by
  have low : ∀ blueprint ∈ forest, blueprint.height ≤ builder.maxDepth := by
    rcases built with ⟨tree, built⟩ | ⟨name, built⟩
    · obtain ⟨_, meaning⟩ := meaning_of_kept reached.sound built
      exact height_forest meaning
    · obtain ⟨_, _, _, _, _, meaning⟩ := scene_meaning_of_kept reached.sound built
      exact height_forest meaning
  refine ⟨fun blueprint member => Blueprint.within_of_height (low blueprint member), ?_⟩
  intro zero
  rw [zero] at low
  refine List.eq_nil_iff_forall_not_mem.mpr fun blueprint member => ?_
  have positive := blueprint.height_pos
  have bound := low blueprint member
  omega

/-- Four nodes nest in the lamps, the innermost of them in a template's document. -/
theorem lamps_within_limit : ∃ forest,
    { Sample.builder with maxDepth := 4 }.outcome (.start ()) Sample.lamps = .ok forest ∧
      forest.map Blueprint.height = [3] ∧ ∀ blueprint ∈ forest, blueprint.Within 4 := by
  have built : { Sample.builder with maxDepth := 4 }.outcome (.start ()) Sample.lamps =
    .ok _ := rfl
  exact ⟨_, built, rfl, (Builder.forests_within_limit (.start ()) (.inl ⟨_, built⟩)).1⟩

end SceneGraph
