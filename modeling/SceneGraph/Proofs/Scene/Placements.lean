import SceneGraph.Proofs.Scene.Derivation
import SceneGraph.Proofs.Scene.Instantiation

/-!
The entities of a forest: the subtrees follow one another, each numbered in preorder. The links
between them are closed, since every entity but the roots is among the children of its parent, and
every child has its parent among them.
-/
namespace SceneGraph

namespace Blueprint

/-- The entities of a forest, numbered from `first` on. -/
def rootPlacements (first : Nat) : List Blueprint → List Placement
  | [] => []
  | blueprint :: blueprints =>
      blueprint.placements none first ++ rootPlacements (first + blueprint.entityCount) blueprints

theorem length_rootPlacements (first : Nat) (blueprints : List Blueprint) :
    (rootPlacements first blueprints).length = forestCount blueprints := by
  induction blueprints generalizing first with
  | nil => rfl
  | cons blueprint blueprints ih =>
    rw [rootPlacements, forestCount, List.length_append, length_placements, ih]

theorem entities_rootPlacements (first : Nat) (blueprints : List Blueprint) :
    (rootPlacements first blueprints).map Placement.entity =
      (List.range' first (forestCount blueprints)).map Entity.mk := by
  induction blueprints generalizing first with
  | nil => rfl
  | cons blueprint blueprints ih =>
    rw [rootPlacements, forestCount, List.map_append, entities_placements, ih,
      ← List.map_append, List.range'_append_1]

theorem rootsFrom_append (first : Nat) (blueprints others : List Blueprint) :
    rootsFrom first (blueprints ++ others) =
      rootsFrom first blueprints ++ rootsFrom (first + forestCount blueprints) others := by
  induction blueprints generalizing first with
  | nil => rfl
  | cons blueprint blueprints ih =>
    rw [List.cons_append, rootsFrom, rootsFrom, forestCount, ih, List.cons_append, Nat.add_assoc]

theorem rootPlacements_append (first : Nat) (blueprints others : List Blueprint) :
    rootPlacements first (blueprints ++ others) =
      rootPlacements first blueprints ++
        rootPlacements (first + forestCount blueprints) others := by
  induction blueprints generalizing first with
  | nil => rfl
  | cons blueprint blueprints ih =>
    rw [List.cons_append, rootPlacements, rootPlacements, forestCount, ih, List.append_assoc,
      Nat.add_assoc]

theorem forestCount_append (blueprints others : List Blueprint) :
    forestCount (blueprints ++ others) = forestCount blueprints + forestCount others := by
  induction blueprints with
  | nil => exact (Nat.zero_add _).symm
  | cons blueprint blueprints ih =>
    rw [List.cons_append, forestCount, forestCount, ih, Nat.add_assoc]

theorem length_rootsFrom (first : Nat) (blueprints : List Blueprint) :
    (rootsFrom first blueprints).length = blueprints.length := by
  induction blueprints generalizing first with
  | nil => rfl
  | cons blueprint blueprints ih => rw [rootsFrom, List.length_cons, List.length_cons, ih]

theorem entityCount_pos (blueprint : Blueprint) : 0 < blueprint.entityCount := by
  cases blueprint
  rw [entityCount]
  omega

theorem le_of_mem_rootsFrom {first : Nat} {blueprints : List Blueprint} {root : Entity}
    (member : root ∈ rootsFrom first blueprints) : first ≤ root.id := by
  induction blueprints generalizing first with
  | nil => cases member
  | cons blueprint blueprints ih =>
    rw [rootsFrom] at member
    rcases List.mem_cons.mp member with rfl | inside
    · exact Nat.le_refl _
    · exact Nat.le_trans (Nat.le_add_right _ _) (ih inside)

theorem rootsFrom_ascending (first : Nat) (blueprints : List Blueprint) :
    (rootsFrom first blueprints).Pairwise fun root other => root.id < other.id := by
  induction blueprints generalizing first with
  | nil => exact .nil
  | cons blueprint blueprints ih =>
    rw [rootsFrom]
    refine .cons (fun other member => ?_) (ih _)
    exact Nat.lt_of_lt_of_le (Nat.lt_add_of_pos_right blueprint.entityCount_pos)
      (le_of_mem_rootsFrom member)

theorem roots_rootPlacements (first : Nat) (blueprints : List Blueprint) :
    List.Forall₂ (fun blueprint entity =>
      ⟨blueprint, entity, none⟩ ∈ rootPlacements first blueprints)
      blueprints (rootsFrom first blueprints) := by
  induction blueprints generalizing first with
  | nil => exact .nil
  | cons blueprint blueprints ih =>
    rw [rootsFrom, rootPlacements]
    refine .cons ?_ ((ih _).imp fun _ _ member => List.mem_append_right _ member)
    rw [placements_eq_cons]
    exact List.mem_append_left _ List.mem_cons_self

mutual

/-- An entity with a parent is among the children of that parent. -/
theorem origin_placements (parent : Option Entity) (first : Nat) :
    ∀ (blueprint : Blueprint) {placement : Placement},
      placement ∈ blueprint.placements parent first →
      (placement.parent = parent ∧ placement.entity = ⟨first⟩) ∨
        ∃ above ∈ blueprint.placements parent first,
          placement.parent = some above.entity ∧ placement.entity ∈ above.children
  | ⟨stamp, children⟩, placement, member => by
      rw [placements] at member ⊢
      rcases List.mem_cons.mp member with rfl | inside
      · exact .inl ⟨rfl, rfl⟩
      · right
        rcases origin_forestPlacements ⟨first⟩ (first + 1) children inside with
          ⟨below, root⟩ | ⟨above, listed, below⟩
        · exact ⟨_, List.mem_cons_self, below, root⟩
        · exact ⟨above, List.mem_cons_of_mem _ listed, below⟩

theorem origin_forestPlacements (parent : Entity) (first : Nat) :
    ∀ (blueprints : List Blueprint) {placement : Placement},
      placement ∈ forestPlacements parent first blueprints →
      (placement.parent = some parent ∧ placement.entity ∈ rootsFrom first blueprints) ∨
        ∃ above ∈ forestPlacements parent first blueprints,
          placement.parent = some above.entity ∧ placement.entity ∈ above.children
  | [], placement, member => by
      rw [forestPlacements] at member
      cases member
  | blueprint :: blueprints, placement, member => by
      rw [forestPlacements] at member ⊢
      rw [rootsFrom]
      rcases List.mem_append.mp member with inside | inside
      · rcases origin_placements (some parent) first blueprint inside with
          ⟨below, root⟩ | ⟨above, listed, below⟩
        · exact .inl ⟨below, root ▸ List.mem_cons_self⟩
        · exact .inr ⟨above, List.mem_append_left _ listed, below⟩
      · rcases origin_forestPlacements parent _ blueprints inside with
          ⟨below, root⟩ | ⟨above, listed, below⟩
        · exact .inl ⟨below, List.mem_cons_of_mem _ root⟩
        · exact .inr ⟨above, List.mem_append_right _ listed, below⟩

end

section Every
variable {holds : Stamp → Prop}

mutual

theorem every_placements (parent : Option Entity) (first : Nat) :
    ∀ {blueprint : Blueprint}, blueprint.Every holds → ∀ {placement : Placement},
      placement ∈ blueprint.placements parent first → placement.blueprint.Every holds
  | ⟨stamp, children⟩, every, placement, member => by
      rw [placements] at member
      rcases List.mem_cons.mp member with rfl | inside
      · exact every
      · cases every with
        | intro own below => exact every_forestPlacements ⟨first⟩ _ below inside

theorem every_forestPlacements (parent : Entity) (first : Nat) :
    ∀ {blueprints : List Blueprint}, (∀ blueprint ∈ blueprints, blueprint.Every holds) →
      ∀ {placement : Placement}, placement ∈ forestPlacements parent first blueprints →
        placement.blueprint.Every holds
  | [], _, placement, member => by
      rw [forestPlacements] at member
      cases member
  | blueprint :: blueprints, every, placement, member => by
      rw [forestPlacements] at member
      rcases List.mem_append.mp member with inside | inside
      · exact every_placements _ first (every blueprint List.mem_cons_self) inside
      · exact every_forestPlacements parent _
          (fun other listed => every other (List.mem_cons_of_mem _ listed)) inside

end

end Every

section Roots
variable {first : Nat} {blueprints : List Blueprint} {placement : Placement}

/-- The entities of a forest are those of its subtrees. -/
theorem subtree_rootPlacements (member : placement ∈ rootPlacements first blueprints) :
    ∃ blueprint ∈ blueprints, ∃ start, ⟨start⟩ ∈ rootsFrom first blueprints ∧
      blueprint.placements none start ⊆ rootPlacements first blueprints ∧
      placement ∈ blueprint.placements none start := by
  induction blueprints generalizing first with
  | nil => cases member
  | cons blueprint blueprints ih =>
    rw [rootPlacements] at member ⊢
    rw [rootsFrom]
    rcases List.mem_append.mp member with inside | inside
    · exact ⟨blueprint, List.mem_cons_self, first, List.mem_cons_self,
        List.subset_append_left _ _, inside⟩
    · obtain ⟨other, listed, start, root, all, own⟩ := ih inside
      exact ⟨other, List.mem_cons_of_mem _ listed, start, List.mem_cons_of_mem _ root,
        List.subset_append_of_subset_right _ all, own⟩

theorem origin_rootPlacements (member : placement ∈ rootPlacements first blueprints) :
    (placement.parent = none ∧ placement.entity ∈ rootsFrom first blueprints) ∨
      ∃ above ∈ rootPlacements first blueprints,
        placement.parent = some above.entity ∧ placement.entity ∈ above.children := by
  obtain ⟨blueprint, _, start, root, all, own⟩ := subtree_rootPlacements member
  rcases origin_placements none start blueprint own with ⟨orphan, same⟩ | ⟨above, listed, below⟩
  · exact .inl ⟨orphan, same ▸ root⟩
  · exact .inr ⟨above, all listed, below⟩

theorem child_rootPlacements (member : placement ∈ rootPlacements first blueprints)
    {child : Entity} (listed : child ∈ placement.children) :
    ∃ below ∈ rootPlacements first blueprints,
      below.entity = child ∧ below.parent = some placement.entity := by
  obtain ⟨blueprint, _, start, _, all, own⟩ := subtree_rootPlacements member
  obtain ⟨inner, _, found⟩ := exists_of_right (children_placements none start blueprint own) listed
  exact ⟨_, all found, rfl, rfl⟩

theorem root_rootPlacements {root : Entity} (listed : root ∈ rootsFrom first blueprints) :
    ∃ placement ∈ rootPlacements first blueprints,
      placement.entity = root ∧ placement.parent = none := by
  obtain ⟨blueprint, _, found⟩ := exists_of_right (roots_rootPlacements first blueprints) listed
  exact ⟨_, found, rfl, rfl⟩

theorem every_rootPlacements {holds : Stamp → Prop}
    (every : ∀ blueprint ∈ blueprints, blueprint.Every holds)
    (member : placement ∈ rootPlacements first blueprints) : placement.blueprint.Every holds := by
  obtain ⟨blueprint, listed, start, _, _, own⟩ := subtree_rootPlacements member
  exact every_placements none start (every blueprint listed) own

end Roots
end Blueprint
end SceneGraph
