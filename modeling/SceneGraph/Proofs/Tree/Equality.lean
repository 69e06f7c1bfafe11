import Mathlib.Data.List.Forall2
import SceneGraph.Proofs.Tree.Formed

/-!
Equality of trees. The comparison looks at the entries of maps and at their indices, but the
entries decide the index, so trees are equal just if they are pairwise equal in order at every
level. Maps that come from insertions are the last entries of their keys, and are compared as such.
-/
namespace SceneGraph

/-- Relations that agree on the members of two lists relate the lists alike. -/
theorem forall₂_congr {α β : Type} {related other : α → β → Prop} {firsts : List α}
    {seconds : List β}
    (agree : ∀ first ∈ firsts, ∀ second ∈ seconds, related first second ↔ other first second) :
    List.Forall₂ related firsts seconds ↔ List.Forall₂ other firsts seconds := by
  induction firsts generalizing seconds with
  | nil => cases seconds <;> simp
  | cons first firsts ih =>
    cases seconds with
    | nil => simp
    | cons second seconds =>
      have later := ih fun first member second otherMember =>
        agree first (.tail _ member) second (.tail _ otherMember)
      rw [List.forall₂_cons, List.forall₂_cons, agree first (.head _) second (.head _), later]

/-- Entries are related in pairs if the keys are the same and the values are related in pairs. -/
theorem forall₂_entries {κ α β : Type} (related : α → β → Prop) {entries : List (κ × α)}
    {others : List (κ × β)} :
    List.Forall₂ (fun entry other => entry.1 = other.1 ∧ related entry.2 other.2) entries others ↔
      entries.map Prod.fst = others.map Prod.fst ∧
        List.Forall₂ related (entries.map Prod.snd) (others.map Prod.snd) := by
  induction entries generalizing others with
  | nil => cases others <;> simp
  | cons entry entries ih =>
    cases others with
    | nil => simp
    | cons other others =>
      rw [List.forall₂_cons, ih, List.map_cons, List.map_cons, List.cons.injEq, List.map_cons,
        List.map_cons, List.forall₂_cons]
      exact and_and_and_comm

namespace OrderedMap

/-- The order of the keys decides the index. -/
theorem WellFormed.index_beq {α β : Type} {map : OrderedMap α} {other : OrderedMap β}
    (formed : map.WellFormed) (otherFormed : other.WellFormed) (same : map.keys = other.keys) :
    (map.index == other.index) = true := by
  refine Std.TreeMap.Equiv.beq (.of_forall_constGet?_eq fun key => Option.ext fun position => ?_)
  rw [formed.index_eq_some_iff, otherFormed.index_eq_some_iff, same]

end OrderedMap

namespace Tree

/-- Trees that are the same at every level: items in order, and under the same keys in order the
same values. Indices do not count. -/
inductive Equal : Tree → Tree → Prop
  | null : Equal .null .null
  | scalar {value other : Scalar} (same : value.same other = true) :
      Equal (.scalar value) (.scalar other)
  | sequence {items others : List Tree} (same : List.Forall₂ Equal items others) :
      Equal (.sequence items) (.sequence others)
  | map {fields others : OrderedMap Tree} (keys : fields.keys = others.keys)
      (values : List.Forall₂ Equal fields.values others.values) : Equal (.map fields) (.map others)

theorem sameItems_iff {items others : List Tree} :
    sameItems items others = true ↔
      List.Forall₂ (fun item other => item.same other = true) items others := by
  induction items generalizing others with
  | nil => cases others <;> simp [sameItems]
  | cons item items ih =>
    cases others with
    | nil => simp [sameItems]
    | cons other others => rw [sameItems, Bool.and_eq_true, ih, List.forall₂_cons]

theorem sameEntries_iff {entries others : List (String × Tree)} :
    sameEntries entries others = true ↔ entries.map Prod.fst = others.map Prod.fst ∧
      sameItems (entries.map Prod.snd) (others.map Prod.snd) = true := by
  induction entries generalizing others with
  | nil => cases others <;> simp [sameEntries, sameItems]
  | cons entry entries ih =>
    obtain ⟨key, value⟩ := entry
    cases others with
    | nil => simp [sameEntries]
    | cons other others =>
      rw [sameEntries, sameEntry, Bool.and_eq_true, Bool.and_eq_true, beq_iff_eq, ih, List.map_cons,
        List.map_cons, List.cons.injEq, List.map_cons, List.map_cons, sameItems, Bool.and_eq_true]
      exact and_and_and_comm

section Maps
variable {map other : OrderedMap Tree} (formed : map.WellFormed) (otherFormed : other.WellFormed)
include formed otherFormed

/-- The comparison of the indices never decides. -/
theorem sameMaps_eq : sameMaps map other = sameEntries map.entries other.entries := by
  obtain ⟨entries, index⟩ := map
  rw [sameMaps]
  cases same : sameEntries entries other.entries with
  | false => rfl
  | true => exact formed.index_beq otherFormed (sameEntries_iff.mp same).1

theorem sameMaps_iff :
    sameMaps map other = true ↔ map.keys = other.keys ∧
      List.Forall₂ (fun value held => value.same held = true) map.values other.values := by
  rw [sameMaps_eq formed otherFormed, sameEntries_iff, sameItems_iff]
  rfl

end Maps

theorem equal_scalar {value other : Scalar} :
    (scalar value).Equal (scalar other) ↔ value.same other = true :=
  ⟨fun | .scalar same => same, .scalar⟩

theorem equal_sequence {items others : List Tree} :
    (sequence items).Equal (sequence others) ↔ List.Forall₂ Equal items others :=
  ⟨fun | .sequence same => same, .sequence⟩

theorem equal_map {fields others : OrderedMap Tree} :
    (map fields).Equal (map others) ↔
      fields.keys = others.keys ∧ List.Forall₂ Equal fields.values others.values :=
  ⟨fun | .map keys values => ⟨keys, values⟩, fun ⟨keys, values⟩ => .map keys values⟩

/-- At every level the comparison of the indices may be left out. -/
theorem Formed.same_iff {tree other : Tree} (formed : tree.Formed) (otherFormed : other.Formed) :
    tree.same other = true ↔ tree.Equal other := by
  induction formed generalizing other with
  | null =>
    cases otherFormed with
    | null => exact iff_of_true (by simp [Tree.same]) .null
    | scalar _ | sequence _ | map _ _ => exact iff_of_false (by simp [Tree.same]) (by rintro ⟨⟩)
  | scalar value =>
    cases otherFormed with
    | scalar other => rw [Tree.same, equal_scalar]
    | null | sequence _ | map _ _ => exact iff_of_false (by simp [Tree.same]) (by rintro ⟨⟩)
  | sequence _ ih =>
    cases otherFormed with
    | sequence otherBelow =>
      rw [Tree.same, sameItems_iff, equal_sequence]
      exact forall₂_congr fun item member other otherMember =>
        ih item member (otherBelow other otherMember)
    | null | scalar _ | map _ _ => exact iff_of_false (by simp [Tree.same]) (by rintro ⟨⟩)
  | map formed _ ih =>
    cases otherFormed with
    | map otherFormed otherBelow =>
      rw [Tree.same, sameMaps_iff formed otherFormed, equal_map]
      refine and_congr_right fun _ => forall₂_congr fun value member held heldMember => ?_
      obtain ⟨entry, listed, rfl⟩ := List.mem_map.mp member
      obtain ⟨other, otherListed, rfl⟩ := List.mem_map.mp heldMember
      exact ih entry listed (otherBelow other otherListed)
    | null | scalar _ | sequence _ => exact iff_of_false (by simp [Tree.same]) (by rintro ⟨⟩)

end Tree

namespace OrderedMap

/-- How maps of trees are compared: by their entries, pair by pair in order. -/
structure ComparedByEntries (map other : OrderedMap Tree) : Prop where
  same_eq : Tree.sameMaps map other = Tree.sameEntries map.entries other.entries
  same_iff : Tree.sameMaps map other = true ↔
    List.Forall₂ (fun entry held => entry.1 = held.1 ∧ entry.2.same held.2 = true)
      map.entries other.entries
  /-- The indices of the maps below count as little. -/
  same_iff_equal : (∀ entry ∈ map.entries, entry.2.Formed) →
    (∀ entry ∈ other.entries, entry.2.Formed) →
      (Tree.sameMaps map other = true ↔ (Tree.map map).Equal (.map other))

theorem WellFormed.compared {map other : OrderedMap Tree} (formed : map.WellFormed)
    (otherFormed : other.WellFormed) : ComparedByEntries map other where
  same_eq := Tree.sameMaps_eq formed otherFormed
  same_iff := (Tree.sameMaps_iff formed otherFormed).trans
    (forall₂_entries fun (value held : Tree) => value.same held = true).symm
  same_iff_equal below otherBelow := by
    rw [← (Tree.Formed.map formed below).same_iff (.map otherFormed otherBelow), Tree.same]

/-- Maps of trees, however they were filled, answer from what was inserted and are compared by
their entries. -/
theorem inserted_reflects_compared {map other : OrderedMap Tree}
    {history otherHistory : List (String × Tree)} (inserted : Inserted history map)
    (otherInserted : Inserted otherHistory other) :
    map.Reflects history ∧ ComparedByEntries map other :=
  have reflects := inserted.reflects
  ⟨reflects, reflects.formed.compared otherInserted.reflects.formed⟩

/-- A lamp that is switched on after a desk was put beside it. -/
def lampHistory : List (String × Tree) :=
  [("lamp", .null), ("desk", .null), ("lamp", .scalar (.bool true))]

def lampMap : OrderedMap Tree :=
  ((empty.insert "lamp" .null).insert "desk" .null).insert "lamp" (.scalar (.bool true))

/-- What the lamp and the desk are in the end. -/
def lampEntries : List (String × Tree) := [("lamp", .scalar (.bool true)), ("desk", .null)]

theorem lampMap_reflects_compared :
    Inserted lampHistory lampMap ∧ Inserted lampEntries (ofList lampEntries) ∧
      lampMap.Reflects lampHistory ∧ ComparedByEntries lampMap (ofList lampEntries) :=
  have inserted : Inserted lampHistory lampMap := .next (.next (.next .new _ _) _ _) _ _
  ⟨inserted, .listed lampEntries, inserted_reflects_compared inserted (.listed lampEntries)⟩

end OrderedMap
end SceneGraph
