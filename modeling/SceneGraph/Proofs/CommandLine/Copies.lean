import SceneGraph.CommandLine.Run
import SceneGraph.Proofs.Scene.Indexing
import SceneGraph.Proofs.Scene.Translation

/-!
Copies of a forest in one world. They are the forest repeated, so a copy has the same dumps as the
first one, but for the ids, which are larger by the entities of the copies in between; the index
is that of the first copy.
-/
namespace SceneGraph

namespace Blueprint
open World

/-- A forest so many times. -/
def repeated (forest : List Blueprint) (times : Nat) : List Blueprint :=
  (List.replicate times forest).flatten

variable {forest : List Blueprint}

theorem repeated_succ (forest : List Blueprint) (times : Nat) :
    repeated forest (times + 1) = forest ++ repeated forest times := rfl

theorem repeated_add (forest : List Blueprint) (times more : Nat) :
    repeated forest (times + more) = repeated forest times ++ repeated forest more := by
  rw [repeated, List.replicate_add, List.flatten_append]
  rfl

theorem forestCount_repeated (forest : List Blueprint) (times : Nat) :
    forestCount (repeated forest times) = times * forestCount forest := by
  induction times with
  | zero => exact (Nat.zero_mul _).symm
  | succ times ih => rw [repeated_succ, forestCount_append, ih, Nat.succ_mul, Nat.add_comm]

theorem length_repeated (forest : List Blueprint) (times : Nat) :
    (repeated forest times).length = times * forest.length := by
  simp [repeated]

/-- The dump of a root in a forest. -/
theorem dump_root {before after : List Blueprint} {blueprint : Blueprint}
    (split : forest = before ++ blueprint :: after) :
    (rootsFrom 1 forest)[before.length]? = some ⟨1 + forestCount before⟩ ∧
      (grown [] forest).dump ⟨1 + forestCount before⟩ =
        (blueprint.mirror none (1 + forestCount before)).mapError .world := by
  have placed : blueprint.placements none (1 + forestCount before) ⊆ rootPlacements 1 forest := by
    rw [split, rootPlacements_append, rootPlacements]
    exact fun placement member => List.mem_append_right _ (List.mem_append_left _ member)
  have holds : (grown [] forest).Holds (rootPlacements 1 forest) := holds_grown
  constructor
  · rw [split, rootsFrom_append, rootsFrom]
    rw [List.getElem?_append_right (length_rootsFrom 1 before).le, length_rootsFrom,
      Nat.sub_self, List.getElem?_cons_zero]
  · refine blueprint.dumpWithin_mirror none _ (fun placement member => holds _ (placed member)) ?_
    have size : (grown [] forest).size = forestCount forest := by
      rw [grown, size_ofRows, List.nil_append, List.length_map, length_rootPlacements]
    have height := blueprint.height_le_entityCount
    rw [size, split, forestCount_append, forestCount]
    omega

theorem repeated_split {copy copies position : Nat} (before : copy < copies)
    (inside : position < forest.length) : ∃ after, repeated forest copies =
      (repeated forest copy ++ forest.take position) ++ forest[position] :: after := by
  obtain ⟨more, rfl⟩ := Nat.exists_eq_add_of_lt before
  refine ⟨forest.drop (position + 1) ++ repeated forest more, ?_⟩
  have own : forest = forest.take position ++ forest[position] :: forest.drop (position + 1) := by
    rw [← List.drop_eq_getElem_cons inside, List.take_append_drop]
  rw [Nat.add_assoc, repeated_add, repeated_succ, List.append_assoc, ← List.cons_append,
    ← List.append_assoc (forest.take position), ← own]

/-- The copies in front of a root count for its place and its number. -/
theorem root_of_copy {copy copies position : Nat} (before : copy < copies)
    (inside : position < forest.length) :
    let first := 1 + forestCount (forest.take position) + copy * forestCount forest
    (rootsFrom 1 (repeated forest copies))[copy * forest.length + position]? = some ⟨first⟩ ∧
      (grown [] (repeated forest copies)).dump ⟨first⟩ =
        (forest[position].mirror none first).mapError .world := by
  obtain ⟨after, whole⟩ := repeated_split before inside
  have root := dump_root whole
  rw [List.length_append, length_repeated, List.length_take, Nat.min_eq_left inside.le,
    forestCount_append, forestCount_repeated, Nat.add_comm (copy * forestCount forest),
    ← Nat.add_assoc] at root
  exact root

end Blueprint

namespace CommandLine
open Blueprint Populate

theorem makes_copies (forest : List Blueprint) (copies : Nat) (rows : List Slots) :
    Makes (instantiateCopies forest copies) rows
      (rootsFrom (rows.length + 1) (repeated forest copies))
      (rows ++ (rootPlacements (rows.length + 1) (repeated forest copies)).map
        Placement.slots) := by
  induction copies generalizing rows with
  | zero =>
    rw [instantiateCopies, show repeated forest 0 = [] from rfl, rootPlacements, List.map_nil,
      List.append_nil]
    exact .pure []
  | succ copies ih =>
    have rest := ih (rows ++ (rootPlacements (rows.length + 1) forest).map Placement.slots)
    rw [List.length_append, List.length_map, length_rootPlacements, List.append_assoc,
      ← List.map_append, Nat.add_right_comm, ← rootPlacements_append] at rest
    rw [instantiateCopies, repeated_succ, rootsFrom_append]
    exact .bind (makes_rootPlacements forest rows) (.bind rest (.pure _))

theorem registers_copies (forest : List Blueprint) (copies : Nat) :
    Registers (instantiateCopies forest copies)
      (List.replicate copies (forestNames forest)).flatten := by
  induction copies with
  | zero =>
    rw [instantiateCopies]
    exact .pure []
  | succ copies ih =>
    rw [instantiateCopies, List.replicate_succ, List.flatten_cons]
    exact .bind (registers_instantiateAll forest) fun _ => .last ih fun _ => .pure _

/-- Copies after the first record nothing, since all their names are taken. -/
theorem index_copies (forest : List Blueprint) :
    ∃ index, ∀ copies, ((instantiateCopies forest (copies + 1)).run.run
      ⟨.empty, some .empty, #[]⟩).2.index = some index := by
  obtain ⟨index?, log, ran⟩ := makes_rootPlacements forest [] (some .empty) #[]
  obtain ⟨index, found, _, named, _⟩ :=
    registers_instantiateAll forest ⟨.ofRows [], some .empty, #[]⟩ .empty rfl
  rw [ran] at found named
  refine ⟨index, fun copies => ?_⟩
  obtain ⟨later, laterFound, _, _, same⟩ := Registers.last (registers_copies forest copies)
    (fun roots => .pure (rootsFrom 1 forest ++ roots)) _ index found
  have unchanged : later = index := by
    refine same fun name member => named _ rfl name ?_
    obtain ⟨names, copied, inside⟩ := List.mem_flatten.mp member
    rw [List.eq_of_mem_replicate copied] at inside
    exact inside
  rw [unchanged] at laterFound
  rw [← World.ofRows_nil, instantiateCopies, run_bind_ok ran]
  exact laterFound

/-- The entities and roots of so many copies are so many times those of the forest. A root of a
copy has the dump of the same root of the first copy with all ids increased by the entities of the
copies between, and the index is that of one copy. -/
theorem copies_translated {forest : List Blueprint} (built : ForestBuilt forest) (copies : Nat) :
    ∃ roots population,
      (instantiateCopies forest copies).run.run ⟨.empty, some .empty, #[]⟩ =
        (.ok roots, population) ∧
      population.world.size = copies * forestCount forest ∧
      roots.length = copies * forest.length ∧
      (∀ copy < copies, ∀ position < forest.length, ∃ original root dump,
        roots[position]? = some original ∧
        roots[copy * forest.length + position]? = some root ∧
        population.world.dump original = .ok dump ∧
        population.world.dump root = .ok (dump.translate (copy * forestCount forest))) ∧
      (0 < copies → population.index = ((instantiateCopies forest 1).run.run
        ⟨.empty, some .empty, #[]⟩).2.index) := by
  obtain ⟨index?, log, ran⟩ := makes_copies forest copies [] (some .empty) #[]
  refine ⟨_, _, ran, ?_, ?_, fun copy before position inside => ?_, fun positive => ?_⟩
  · rw [World.size_ofRows, List.nil_append, List.length_map, length_rootPlacements,
      forestCount_repeated]
  · rw [length_rootsFrom, length_repeated]
  · obtain ⟨originalAt, originalDump⟩ := root_of_copy (Nat.zero_lt_of_lt before) inside
    rw [Nat.zero_mul, Nat.zero_add] at originalAt
    rw [Nat.zero_mul, Nat.add_zero] at originalAt originalDump
    obtain ⟨rootAt, rootDump⟩ := root_of_copy before inside
    obtain ⟨dump, mirrored, shifted⟩ := mirror_shift (copy * forestCount forest) none
      (1 + forestCount (forest.take position)) (built.plain forest[position] (List.getElem_mem _))
    rw [Option.map_none] at shifted
    rw [mirrored] at originalDump
    rw [shifted] at rootDump
    exact ⟨_, _, dump, originalAt, rootAt, originalDump, rootDump⟩
  · obtain ⟨index, same⟩ := index_copies forest
    obtain ⟨more, rfl⟩ := Nat.exists_eq_add_of_lt positive
    have found := same (0 + more)
    rw [← World.ofRows_nil, ran] at found
    exact found.trans (same 0).symm

/-- The lamps twice: eight entities, and the second copy is four ids further. -/
theorem lamps_twice : ∃ roots population,
    (instantiateCopies Sample.lampForest 2).run.run ⟨.empty, some .empty, #[]⟩ =
      (.ok roots, population) ∧
    population.world.size = 8 ∧
    ∃ original root dump, roots[0]? = some original ∧ roots[1]? = some root ∧
      population.world.dump original = .ok dump ∧
      population.world.dump root = .ok (dump.translate 4) := by
  obtain ⟨roots, population, ran, size, _, translated, _⟩ :=
    copies_translated Sample.lampForest_built 2
  exact ⟨roots, population, ran, size, translated 1 (by decide) 0 (by decide)⟩

end CommandLine
end SceneGraph
