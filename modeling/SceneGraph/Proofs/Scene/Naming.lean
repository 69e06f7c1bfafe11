import SceneGraph.Proofs.Scene.Growth
import SceneGraph.Proofs.Scene.NameIndex

/-!
Names of entities that are made with an index. The index is the one into which the named entities
were recorded one after the other in the order of their ids; beyond the index and the reports about
taken names nothing tells the calls from those without an index.
-/
namespace SceneGraph

def Event.isNameTaken : Event → Bool
  | .nameTaken _ _ => true
  | _ => false

namespace Populate

/-- From a world with the rows the program records the entities in the index that it finds, and
reports the taken names that this brings up and no others. -/
def Names {α : Type} (program : Populate α) (rows : List Slots)
    (named : List (String × Entity)) : Prop :=
  ∀ index log, ∃ outcome world logAfter, program.run.run ⟨.ofRows rows, some index, log⟩ =
      (outcome, ⟨world, some (index.recordAll named).1, logAfter⟩) ∧
    logAfter.toList.filter Event.isNameTaken =
      log.toList.filter Event.isNameTaken ++ (index.recordAll named).2

namespace Names

variable {α β : Type} {rows middle : List Slots}

theorem pure (value : α) : Names (Pure.pure value) rows [] :=
  fun _ log => ⟨.ok value, .ofRows rows, log, rfl, (List.append_nil _).symm⟩

theorem bind {program : Populate α} {next : α → Populate β} {value : α}
    {named others : List (String × Entity)} (makes : Makes program rows value middle)
    (first : Names program rows named) (rest : Names (next value) middle others) :
    Names (program >>= next) rows (named ++ others) := by
  intro index log
  obtain ⟨_, logBetween, made⟩ := makes (some index) log
  obtain ⟨_, _, _, ran, taken⟩ := first index log
  cases made.symm.trans ran
  obtain ⟨result, last, logAfter, finished, takenAfter⟩ :=
    rest (index.recordAll named).1 logBetween
  rw [EntityIndex.recordAll_append]
  refine ⟨result, last, logAfter, (run_bind_ok ran).trans finished, ?_⟩
  rw [takenAfter, taken, List.append_assoc]

theorem silent {program : Populate α} {next : α → Populate β} {value : α}
    {named : List (String × Entity)} (makes : Makes program rows value middle)
    (first : Names program rows []) (rest : Names (next value) middle named) :
    Names (program >>= next) rows named :=
  bind makes first rest

theorem last {program : Populate α} {next : α → Populate β} {value : α}
    {named : List (String × Entity)} (makes : Makes program rows value middle)
    (first : Names program rows named) (rest : Names (next value) middle []) :
    Names (program >>= next) rows named := by
  rw [← List.append_nil named]
  exact bind makes first rest

/-- Programs that neither look at the index nor report. -/
theorem of_kept {program : Populate α} (kept : ∀ before, ∃ outcome world,
    program.run.run before = (outcome, { before with world })) : Names program rows [] := by
  intro index log
  obtain ⟨outcome, world, ran⟩ := kept ⟨.ofRows rows, some index, log⟩
  exact ⟨outcome, world, log, ran, (List.append_nil _).symm⟩

theorem spawn (stamp : Stamp) : Names (Populate.spawn stamp) rows [] :=
  of_kept fun before => ⟨_, (before.world.spawn stamp).2, rfl⟩

theorem kept_assign (entity : Entity) (component : Component) (before : Population) :
    ∃ outcome world, (Populate.assign entity component).run.run before =
      (outcome, { before with world }) := by
  have found : (get : Populate Population).run.run before = (.ok before, before) := rfl
  unfold Populate.assign
  rw [run_bind_ok found]
  cases before.world.assign entity component with
  | error error => exact ⟨_, before.world, rfl⟩
  | ok world => exact ⟨_, world, rfl⟩

theorem assign (entity : Entity) (component : Component) :
    Names (Populate.assign entity component) rows [] :=
  of_kept (kept_assign entity component)

theorem ensureTimeScale (entity : Entity) : Names (Populate.ensureTimeScale entity) rows [] := by
  refine of_kept fun before => ?_
  have found : (get : Populate Population).run.run before = (.ok before, before) := rfl
  unfold Populate.ensureTimeScale
  rw [run_bind_ok found]
  split
  · exact ⟨_, before.world, rfl⟩
  · exact kept_assign entity _ before

theorem report (entity : Entity) (children : Nat) :
    Names (Populate.report [.instantiated entity children]) rows [] := by
  intro index log
  refine ⟨.ok (), .ofRows rows, log ++ [Event.instantiated entity children], rfl, ?_⟩
  rw [Array.toList_appendList, List.filter_append]
  rfl

theorem record (entity : Entity) (name? : Option String) :
    Names (Populate.record entity name?) rows (name?.map fun name => (name, entity)).toList := by
  intro index log
  cases name? with
  | none => exact ⟨.ok (), .ofRows rows, log, rfl, (List.append_nil _).symm⟩
  | some name =>
    refine ⟨.ok (), .ofRows rows, log ++ (index.record name entity).2, rfl, ?_⟩
    have reported : (index.record name entity).2.filter Event.isNameTaken =
        (index.record name entity).2 := by
      unfold EntityIndex.record
      split <;> rfl
    have alone : (index.recordAll [(name, entity)]).2 = (index.record name entity).2 :=
      List.append_nil _
    rw [Array.toList_appendList, List.filter_append, reported]
    exact congrArg (_ ++ ·) alone.symm

end Names
end Populate

namespace Blueprint
open Populate

variable {parent : Option Entity} {first : Nat}

theorem named_placements (parent : Option Entity) (first : Nat) (stamp : Stamp)
    (children : List Blueprint) :
    (placements parent first ⟨stamp, children⟩).filterMap Placement.named? =
      (stamp.name?.map fun name => (name, (⟨first⟩ : Entity))).toList ++
        (forestPlacements ⟨first⟩ (first + 1) children).filterMap Placement.named? := by
  rw [placements]
  cases named : stamp.name? <;> simp [Placement.named?, Blueprint.name?, named]

mutual

theorem names_placements (parent : Option Entity) : ∀ (blueprint : Blueprint) (rows : List Slots),
    Names blueprint.instantiate rows
      ((blueprint.placements parent (rows.length + 1)).filterMap Placement.named?)
  | ⟨stamp, children⟩, rows => by
      have makes := makes_forestPlacements children ⟨rows.length + 1⟩
        (rows ++ [(Slots.ofStamp stamp).timed])
      have names := names_forestPlacements children ⟨rows.length + 1⟩
        (rows ++ [(Slots.ofStamp stamp).timed])
      rw [List.length_append] at makes names
      rw [instantiate, named_placements]
      refine .silent (.spawn stamp) (.spawn stamp) ?_
      refine .bind (.record _ _) (.record _ _) ?_
      refine .silent (.ensureTimeScale rows _ []) (.ensureTimeScale _) ?_
      refine .last makes names ?_
      refine .silent (.report _) (.report _ _) ?_
      rw [List.append_assoc]
      exact .silent (.assign rows _ _ _) (.assign _ _) (.pure _)

theorem names_forestPlacements : ∀ (blueprints : List Blueprint) (parent : Entity)
    (rows : List Slots), Names (instantiateChildren parent blueprints) rows
      ((forestPlacements parent (rows.length + 1) blueprints).filterMap Placement.named?)
  | [], parent, rows => by
      rw [instantiateChildren, forestPlacements]
      exact .pure []
  | blueprint :: blueprints, parent, rows => by
      have made := makes_placements blueprint rows
      have makes := makes_forestPlacements blueprints parent
        (rows ++ (blueprint.placements (some parent) (rows.length + 1)).map Placement.slots)
      have names := names_forestPlacements blueprints parent
        (rows ++ (blueprint.placements (some parent) (rows.length + 1)).map Placement.slots)
      rw [List.length_append, List.length_map, length_placements, Nat.add_right_comm] at makes names
      rw [placements_eq_cons, List.map_cons] at made makes names
      rw [instantiateChildren, forestPlacements, List.filterMap_append]
      refine .bind made (names_placements (some parent) blueprint rows) ?_
      refine .silent (.assign rows _ _ _) (.assign _ _) ?_
      exact .last makes names (.pure _)

end

theorem names_rootPlacements (blueprints : List Blueprint) (rows : List Slots) :
    Names (instantiateAll blueprints) rows
      ((rootPlacements (rows.length + 1) blueprints).filterMap Placement.named?) := by
  induction blueprints generalizing rows with
  | nil =>
    rw [instantiateAll, List.mapM_nil, rootPlacements]
    exact .pure []
  | cons blueprint blueprints ih =>
    have makes := makes_rootPlacements blueprints
      (rows ++ (blueprint.placements none (rows.length + 1)).map Placement.slots)
    have names := ih
      (rows ++ (blueprint.placements none (rows.length + 1)).map Placement.slots)
    rw [List.length_append, List.length_map, length_placements, Nat.add_right_comm] at makes names
    rw [instantiateAll, List.mapM_cons, rootPlacements, List.filterMap_append]
    exact .bind (blueprint.makes_placements rows) (names_placements none blueprint rows)
      (.last makes names (.pure _))

end Blueprint

/-- A call that instantiates one blueprint or several. -/
inductive Batch where
  | one (blueprint : Blueprint)
  | all (blueprints : List Blueprint)

namespace Batch
open Blueprint Populate

def blueprints : Batch → List Blueprint
  | one blueprint => [blueprint]
  | all blueprints => blueprints

/-- The roots that a call returns and what it leaves. It is a call with an index if one is kept. -/
def run (before : Population) : Batch → Except WorldError (List Entity) × Population
  | one blueprint =>
      let (outcome, after) := match before.index with
        | none => before.world.instantiate blueprint
        | some index => before.world.instantiateIndexed index blueprint
      (outcome.map fun root => [root], { after with log := before.log ++ after.log })
  | all blueprints =>
      let (outcome, after) := match before.index with
        | none => before.world.instantiateAll blueprints
        | some index => before.world.instantiateAllIndexed index blueprints
      (outcome, { after with log := before.log ++ after.log })

def runAll : Population → List Batch → List (Except WorldError (List Entity)) × Population
  | before, [] => ([], before)
  | before, batch :: rest =>
      let (outcome, after) := batch.run before
      let (outcomes, last) := runAll after rest
      (outcome :: outcomes, last)

/-- The roots of each call when the entities are numbered from `first` on. -/
def rootsOfEach (first : Nat) : List Batch → List (List Entity)
  | [] => []
  | batch :: rest =>
      rootsFrom first batch.blueprints ::
        rootsOfEach (first + forestCount batch.blueprints) rest

/-- The index and the log are those of the entities that the blueprints name. -/
def Recorded (index? : Option EntityIndex) (log : Array Event) (placements : List Placement)
    (indexAfter : Option EntityIndex) (logAfter : Array Event) : Prop :=
  ∀ index, index? = some index →
    indexAfter = some (index.recordAll (placements.filterMap Placement.named?)).1 ∧
    logAfter.toList.filter Event.isNameTaken = log.toList.filter Event.isNameTaken ++
      (index.recordAll (placements.filterMap Placement.named?)).2

theorem program_ofRows {α : Type} {program : Populate α} {rows made : List Slots} {value : α}
    {placements : List Placement} (makes : Makes program rows value made)
    (names : Names program rows (placements.filterMap Placement.named?))
    (index? : Option EntityIndex) : ∃ indexAfter logAfter,
      program.run.run ⟨.ofRows rows, index?, #[]⟩ =
        (.ok value, ⟨.ofRows made, indexAfter, logAfter⟩) ∧
      Recorded index? #[] placements indexAfter logAfter := by
  obtain ⟨indexAfter, logAfter, ran⟩ := makes index? #[]
  refine ⟨indexAfter, logAfter, ran, fun index kept => ?_⟩
  subst kept
  obtain ⟨_, _, _, same, taken⟩ := names index #[]
  cases ran.symm.trans same
  exact ⟨rfl, taken⟩

theorem run_ofRows (batch : Batch) (rows : List Slots) (index? : Option EntityIndex)
    (log : Array Event) : ∃ indexAfter logAfter,
      batch.run ⟨.ofRows rows, index?, log⟩ =
        (.ok (rootsFrom (rows.length + 1) batch.blueprints),
          ⟨.grown rows batch.blueprints, indexAfter, log ++ logAfter⟩) ∧
      Recorded index? #[] (rootPlacements (rows.length + 1) batch.blueprints)
        indexAfter logAfter := by
  cases batch with
  | one blueprint =>
    obtain ⟨indexAfter, logAfter, ran, recorded⟩ := program_ofRows
      (blueprint.makes_placements rows) (names_placements none blueprint rows) index?
    have alone : rootPlacements (rows.length + 1) [blueprint] =
        blueprint.placements none (rows.length + 1) := List.append_nil _
    rw [blueprints, World.grown, alone]
    refine ⟨indexAfter, logAfter, ?_, recorded⟩
    cases index? with
    | none => simp only [run, World.instantiate, ran]; rfl
    | some index => simp only [run, World.instantiateIndexed, ran]; rfl
  | all forest =>
    obtain ⟨indexAfter, logAfter, ran, recorded⟩ := program_ofRows
      (makes_rootPlacements forest rows) (names_rootPlacements forest rows) index?
    refine ⟨indexAfter, logAfter, ?_, recorded⟩
    cases index? with
    | none => simp only [run, World.instantiateAll, ran]; rfl
    | some index => simp only [run, World.instantiateAllIndexed, ran]; rfl

theorem Recorded.append {index? indexBetween indexAfter : Option EntityIndex}
    {log logBetween logAfter : Array Event} {placements others : List Placement}
    (first : Recorded index? #[] placements indexBetween logBetween)
    (rest : Recorded indexBetween (log ++ logBetween) others indexAfter logAfter) :
    Recorded index? log (placements ++ others) indexAfter logAfter := by
  intro index kept
  obtain ⟨between, taken⟩ := first index kept
  obtain ⟨after, takenAfter⟩ := rest _ between
  rw [Array.toList_append, List.filter_append, taken] at takenAfter
  rw [List.filterMap_append, EntityIndex.recordAll_append]
  refine ⟨after, takenAfter.trans ?_⟩
  rw [List.append_assoc]
  rfl

theorem runAll_ofRows (batches : List Batch) (rows : List Slots) (index? : Option EntityIndex)
    (log : Array Event) : ∃ indexAfter logAfter,
      runAll ⟨.ofRows rows, index?, log⟩ batches =
        ((rootsOfEach (rows.length + 1) batches).map .ok,
          ⟨.grown rows (batches.flatMap blueprints), indexAfter, logAfter⟩) ∧
      Recorded index? log (rootPlacements (rows.length + 1) (batches.flatMap blueprints))
        indexAfter logAfter := by
  induction batches generalizing rows index? log with
  | nil =>
    refine ⟨index?, log, ?_, fun index kept => ⟨kept, (List.append_nil _).symm⟩⟩
    rw [List.flatMap_nil, World.grown, rootPlacements, List.map_nil, List.append_nil]
    rfl
  | cons batch batches ih =>
    obtain ⟨indexBetween, logBetween, ran, first⟩ := batch.run_ofRows rows index? log
    obtain ⟨indexAfter, logAfter, finished, rest⟩ := ih (rows ++
      (rootPlacements (rows.length + 1) batch.blueprints).map Placement.slots)
      indexBetween (log ++ logBetween)
    rw [World.grown_append] at finished
    rw [List.length_append, List.length_map, length_rootPlacements, Nat.add_right_comm]
      at finished rest
    refine ⟨indexAfter, logAfter, ?_, ?_⟩
    · rw [runAll, ran]
      exact congrArg (fun last => (Except.ok (rootsFrom (rows.length + 1) batch.blueprints) ::
        last.1, last.2)) finished
    · rw [List.flatMap_cons, rootPlacements_append]
      exact first.append rest

theorem ascending_rootPlacements (first : Nat) (blueprints : List Blueprint) :
    (rootPlacements first blueprints).Pairwise fun earlier later =>
      earlier.entity.id < later.entity.id := by
  have numbered : ((rootPlacements first blueprints).map Placement.entity).Pairwise
      fun earlier later => earlier.id < later.id := by
    rw [entities_rootPlacements]
    exact List.pairwise_map.mpr (List.pairwise_lt_range' 1)
  rw [List.pairwise_map] at numbered
  exact numbered

/-- Calls with an index, which is empty at first, return and make what the calls without one do. The
entities that they make, numbered behind those of the world, are listed in the index by name, and
there is one report about a taken name for each named entity beyond the first of its name. -/
theorem indexing_observes (world : World) (batches : List Batch) :
    let plain := runAll ⟨world, none, #[]⟩ batches
    let indexed := runAll ⟨world, some .empty, #[]⟩ batches
    let made := rootPlacements world.next.id (batches.flatMap blueprints)
    indexed.1 = plain.1 ∧ (∀ outcome ∈ indexed.1, ∃ roots, outcome = .ok roots) ∧
      indexed.2.world = plain.2.world ∧
      (∀ entity, (∃ placement ∈ made, placement.entity = entity) ↔
        ¬ world.contains entity ∧ indexed.2.world.contains entity) ∧
      indexed.2.world.Holds made ∧
      ∃ index, indexed.2.index = some index ∧ index.Lists made ∧
        (indexed.2.log.toList.filter Event.isNameTaken).length + index.size =
          made.countP fun placement => placement.blueprint.stamp.Named := by
  intro plain indexed made
  obtain ⟨rows, rfl⟩ := world.exists_eq_ofRows
  obtain ⟨_, _, plainRan, _⟩ := runAll_ofRows batches rows none #[]
  obtain ⟨indexAfter, logAfter, ran, recorded⟩ := runAll_ofRows batches rows (some .empty) #[]
  obtain ⟨rfl, taken⟩ := recorded .empty rfl
  have plainIs : plain = _ := plainRan
  have indexedIs : indexed = _ := ran
  rw [plainIs, indexedIs]
  refine ⟨rfl, ?_, rfl, fun entity => World.exists_placement_iff, World.holds_grown, _, rfl,
    EntityIndex.lists_recordAll (ascending_rootPlacements _ _), ?_⟩
  · intro outcome member
    obtain ⟨roots, _, rfl⟩ := List.mem_map.mp member
    exact ⟨roots, rfl⟩
  · have counted := EntityIndex.length_taken .empty (made.filterMap Placement.named?)
    rw [Placement.countP_named, taken]
    exact counted.trans (Nat.zero_add _)

end Batch

namespace Sample

/-- A crate with a crate of the same name further inside. -/
def crates : Blueprint := ⟨⟨[.name "crate"]⟩, [⟨⟨[.name "lid"]⟩, [⟨⟨[.name "crate"]⟩, []⟩]⟩]⟩

end Sample

/-- Two calls make the crates twice: the first entity of each name is listed, the others are not. -/
example :
    let after := (Batch.runAll ⟨.empty, some .empty, #[]⟩
      [.one Sample.crates, .all [Sample.crates]]).2
    after.index.map EntityIndex.toList = some [("crate", ⟨1⟩), ("lid", ⟨2⟩)] ∧
      after.log.toList.filter Event.isNameTaken =
        [.nameTaken "crate" ⟨3⟩, .nameTaken "crate" ⟨4⟩, .nameTaken "lid" ⟨5⟩,
          .nameTaken "crate" ⟨6⟩] := by
  decide +kernel

end SceneGraph
