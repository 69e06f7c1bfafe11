import Mathlib.Data.List.Forall2
import SceneGraph.Proofs.Tree.Formed

/-!
Trees up to the order in which keys were declared. In component data the keys of all maps may be
rearranged. In trees that hold nodes the fields of the nodes may be, but the nodes of a list stay in
order.
-/
namespace SceneGraph

namespace OrderedMap

variable {α : Type} {map other : OrderedMap α}

theorem WellFormed.get?_eq_none_iff (formed : map.WellFormed) {key : String} :
    map.get? key = none ↔ key ∉ map.keys := by
  rw [Option.eq_none_iff_forall_ne_some]
  constructor
  · intro absent member
    obtain ⟨entry, listed, rfl⟩ := List.mem_map.mp member
    exact absent entry.2 (formed.get?_eq_some_iff.mpr listed)
  · intro absent value found
    exact absent (List.mem_map_of_mem (f := Prod.fst) (formed.get?_eq_some_iff.mp found))

/-- Maps with the same keys hold related values under a key, or nothing, if the values that both
hold are related. -/
theorem WellFormed.rel_get? (formed : map.WellFormed) (otherFormed : other.WellFormed)
    (keys : map.keys.Perm other.keys) {related : α → α → Prop} (key : String)
    (values : ∀ value held, map.get? key = some value → other.get? key = some held →
      related value held) :
    Option.Rel related (map.get? key) (other.get? key) := by
  cases found : map.get? key with
  | none =>
    rw [otherFormed.get?_eq_none_iff.mpr fun member =>
      formed.get?_eq_none_iff.mp found (keys.mem_iff.mpr member)]
    exact .none
  | some value =>
    cases held : other.get? key with
    | none =>
      have absent := otherFormed.get?_eq_none_iff.mp held
      rw [formed.get?_eq_none_iff.mpr fun member => absent (keys.mem_iff.mp member)] at found
      cases found
    | some otherValue => exact .some (values value otherValue found held)

section Lists
variable {entries arranged others : List (String × α)} {related : String → α → α → Prop}

theorem keys_of_forall₂
    (values : List.Forall₂ (fun entry other => entry.1 = other.1 ∧ related entry.1 entry.2 other.2)
      arranged others) :
    arranged.map Prod.fst = others.map Prod.fst := by
  induction values with
  | nil => rfl
  | cons first _ ih => rw [List.map_cons, List.map_cons, first.1, ih]

theorem exists_of_forall₂
    (values : List.Forall₂ (fun entry other => entry.1 = other.1 ∧ related entry.1 entry.2 other.2)
      arranged others) {key : String} {value : α} (member : (key, value) ∈ arranged) :
    ∃ held, (key, held) ∈ others ∧ related key value held := by
  induction values with
  | nil => cases member
  | @cons entry other _ _ first _ ih =>
    rcases List.mem_cons.mp member with rfl | later
    · obtain ⟨rfl, same⟩ := first
      exact ⟨other.2, List.mem_cons_self, same⟩
    · obtain ⟨held, listed, same⟩ := ih later
      exact ⟨held, List.mem_cons_of_mem _ listed, same⟩

variable (related) (nodup : (entries.map Prod.fst).Nodup) (permuted : entries.Perm arranged)
  (values : List.Forall₂ (fun entry other => entry.1 = other.1 ∧ related entry.1 entry.2 other.2)
    arranged others)
include nodup permuted values

/-- Entries that are permuted and then changed one by one make a map with the same keys and related
values. -/
theorem arranged_ofList :
    (ofList entries).keys.Perm (ofList others).keys ∧
      ∀ key value held, (ofList entries).get? key = some value →
        (ofList others).get? key = some held → related key value held := by
  have kept : (entries.map Prod.fst).Perm (others.map Prod.fst) :=
    keys_of_forall₂ values ▸ permuted.map Prod.fst
  have listed := entries_ofList nodup
  have otherListed := entries_ofList (kept.nodup_iff.mp nodup)
  refine ⟨by rwa [keys, keys, listed, otherListed], fun key value held found otherFound => ?_⟩
  have member := (wellFormed_ofList entries).get?_eq_some_iff.mp found
  rw [listed, permuted.mem_iff] at member
  obtain ⟨other, otherMember, same⟩ := exists_of_forall₂ values member
  rw [← otherListed, ← (wellFormed_ofList others).get?_eq_some_iff, otherFound] at otherMember
  cases otherMember
  exact same

end Lists
end OrderedMap

namespace Tree

/-- The same data, whatever the order of the keys. -/
inductive SameData : Tree → Tree → Prop
  | null : SameData .null .null
  | scalar (value : Scalar) : SameData (.scalar value) (.scalar value)
  | sequence {items others : List Tree} (same : List.Forall₂ SameData items others) :
      SameData (.sequence items) (.sequence others)
  | map {fields others : OrderedMap Tree} (formed : fields.WellFormed)
      (otherFormed : others.WellFormed) (keys : fields.keys.Perm others.keys)
      (values : ∀ key value other, fields.get? key = some value → others.get? key = some other →
        SameData value other) :
      SameData (.map fields) (.map others)

mutual

/-- Node lists with the same nodes in the same order. -/
inductive SameNodes : Tree → Tree → Prop
  | empty {tree : Tree} (listless : tree.fields? = none) : SameNodes tree tree
  | map {fields others : OrderedMap Tree} (same : SameEntries fields.entries others.entries) :
      SameNodes (.map fields) (.map others)

inductive SameEntries : List (String × Tree) → List (String × Tree) → Prop
  | nil : SameEntries [] []
  | cons (name : String) {node other : Tree} {rest others : List (String × Tree)}
      (first : SameNode node other) (below : SameEntries rest others) :
      SameEntries ((name, node) :: rest) ((name, other) :: others)

/-- Nodes with the same fields, whatever their order; the children are a node list. -/
inductive SameNode : Tree → Tree → Prop
  | shapeless {tree : Tree} (fieldless : tree.fields? = none) : SameNode tree tree
  | map {fields others : OrderedMap Tree} (formed : fields.WellFormed)
      (otherFormed : others.WellFormed) (keys : fields.keys.Perm others.keys)
      (values : ∀ key value other, key ≠ "children" → fields.get? key = some value →
        others.get? key = some other → SameData value other)
      (children : ∀ list other, fields.get? "children" = some list →
        others.get? "children" = some other → SameNodes list other) :
      SameNode (.map fields) (.map others)

end

theorem Formed.sameData {tree : Tree} (formed : tree.Formed) : tree.SameData tree := by
  induction formed with
  | null => exact .null
  | scalar value => exact .scalar value
  | sequence below ih => exact .sequence (List.forall₂_same.mpr ih)
  | map formed below ih =>
    refine .map formed formed (.refl _) fun key value other found otherFound => ?_
    rw [found] at otherFound
    cases otherFound
    exact ih _ (formed.get?_eq_some_iff.mp found)

theorem sameEntries_refl {entries : List (String × Tree)}
    (below : ∀ entry ∈ entries, entry.2.SameNode entry.2) : SameEntries entries entries := by
  induction entries with
  | nil => exact .nil
  | cons entry rest ih =>
    have later := ih fun other member => below other (.tail _ member)
    exact .cons entry.1 (below entry (.head _)) later

/-- A tree that holds nodes is rearranged to itself, as a node list and as a node. -/
theorem Formed.sameNodes {tree : Tree} (formed : tree.Formed) :
    tree.SameNodes tree ∧ tree.SameNode tree := by
  induction formed with
  | null => exact ⟨.empty rfl, .shapeless rfl⟩
  | scalar value => exact ⟨.empty rfl, .shapeless rfl⟩
  | sequence below ih => exact ⟨.empty rfl, .shapeless rfl⟩
  | map formed below ih =>
    refine ⟨.map ?_, .map formed formed (.refl _) ?_ ?_⟩
    · exact sameEntries_refl fun entry member => (ih entry member).2
    · intro key value other _ found otherFound
      cases found.symm.trans otherFound
      exact (below _ (formed.get?_eq_some_iff.mp found)).sameData
    · intro list other found otherFound
      cases found.symm.trans otherFound
      exact (ih _ (formed.get?_eq_some_iff.mp found)).1

section Lists
variable {entries arranged others : List (String × Tree)}
  (nodup : (entries.map Prod.fst).Nodup) (permuted : entries.Perm arranged)
include nodup permuted

theorem sameData_ofList
    (values : List.Forall₂ (fun entry other => entry.1 = other.1 ∧ entry.2.SameData other.2)
      arranged others) :
    (map (.ofList entries)).SameData (map (.ofList others)) := by
  obtain ⟨keys, related⟩ := OrderedMap.arranged_ofList (fun _ => SameData) nodup permuted values
  exact .map (OrderedMap.wellFormed_ofList _) (OrderedMap.wellFormed_ofList _) keys related

/-- Fields may be permuted, and their data rearranged; the children stay a list of the same
nodes. -/
theorem sameNode_ofList
    (values : List.Forall₂ (fun entry other => entry.1 = other.1 ∧
      if entry.1 = "children" then entry.2.SameNodes other.2 else entry.2.SameData other.2)
      arranged others) :
    (map (.ofList entries)).SameNode (map (.ofList others)) := by
  obtain ⟨keys, related⟩ := OrderedMap.arranged_ofList (fun key value other =>
    if key = "children" then value.SameNodes other else value.SameData other) nodup permuted values
  refine .map (OrderedMap.wellFormed_ofList _) (OrderedMap.wellFormed_ofList _) keys ?_ ?_
  · intro key value other apart found otherFound
    have same := related key value other found otherFound
    rwa [if_neg apart] at same
  · exact fun list other => related "children" list other

end Lists

end Tree
end SceneGraph
