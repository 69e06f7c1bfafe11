import SceneGraph.Proofs.OrderedMap
import SceneGraph.Scene.Document
import SceneGraph.Tree.Document

/-!
Trees all of whose maps are well formed. These are the trees that insertions make, so every tree
that was read from text is one of them, and so is every document that a loader reads from files.
-/
namespace SceneGraph

namespace OrderedMap

variable {α : Type}

theorem mem_ofList {entries : List (String × α)} {entry : String × α}
    (member : entry ∈ (ofList entries).entries) : entry ∈ entries := by
  have found := (wellFormed_ofList entries).get?_eq_some_iff.mpr member
  rw [get?_ofList] at found
  obtain ⟨other, listed, same⟩ := Option.map_eq_some_iff.mp found
  have key := List.find?_some listed
  have equal : other = entry := Prod.ext (of_decide_eq_true key) same
  exact equal ▸ List.mem_reverse.mp (List.mem_of_find?_eq_some listed)

end OrderedMap

namespace Tree

inductive Formed : Tree → Prop
  | null : Formed .null
  | scalar (value : Scalar) : Formed (.scalar value)
  | sequence {items : List Tree} (below : ∀ item ∈ items, Formed item) : Formed (.sequence items)
  | map {fields : OrderedMap Tree} (formed : fields.WellFormed)
      (below : ∀ entry ∈ fields.entries, Formed entry.2) : Formed (.map fields)

theorem formed_ofList {entries : List (String × Tree)} (below : ∀ entry ∈ entries, entry.2.Formed) :
    (map (.ofList entries)).Formed :=
  .map (OrderedMap.wellFormed_ofList entries) fun entry member =>
    below entry (OrderedMap.mem_ofList member)

theorem Formed.get? {fields : OrderedMap Tree} {key : String} {value : Tree}
    (formed : (Tree.map fields).Formed) (found : fields.get? key = some value) : value.Formed := by
  cases formed with
  | map formed below => exact below _ (formed.get?_eq_some_iff.mp found)

mutual

theorem formed_ofJson : ∀ json : Json, (ofJson json).Formed
  | .null => .null
  | .bool value => .scalar (.bool value)
  | .number _ => .scalar _
  | .string value => .scalar (.string value)
  | .array items => .sequence (formed_ofItems items)
  | .object members => formed_ofList (formed_ofMembers members)

theorem formed_ofItems : ∀ items : List Json, ∀ tree ∈ ofItems items, tree.Formed
  | [], _, member => by cases member
  | item :: items, tree, member => by
      rcases List.mem_cons.mp member with rfl | later
      · exact formed_ofJson item
      · exact formed_ofItems items tree later

theorem formed_ofMembers : ∀ members : List (String × Json),
    ∀ entry ∈ ofMembers members, entry.2.Formed
  | [], _, member => by cases member
  | (key, value) :: members, entry, member => by
      rcases List.mem_cons.mp member with rfl | later
      · exact formed_ofJson value
      · exact formed_ofMembers members entry later

end

theorem formed_ofText {text : String} {tree : Tree} (read : ofText text = .ok tree) :
    tree.Formed := by
  unfold ofText at read
  cases parsed : Json.parse text with
  | error error =>
    rw [parsed] at read
    cases read
  | ok json =>
    rw [parsed] at read
    cases read
    exact formed_ofJson json

end Tree

def Loader.Formed {σ : Type} (loader : Loader σ) : Prop :=
  ∀ name state tree, (loader.load name state).result = .ok tree → tree.Formed

namespace Loader

theorem formed_ofDirectory (directory : Directory) : (ofDirectory directory).Formed := by
  intro name state tree loaded
  unfold ofDirectory at loaded
  dsimp only at loaded
  split at loaded
  · cases loaded
  · rename_i path bytes found
    unfold Tree.ofBytes at loaded
    split at loaded
    · cases loaded
    · rename_i text decoded
      split at loaded
      · rename_i read
        cases loaded
        exact Tree.formed_ofText read
      · cases loaded

theorem formed_ofDocuments {documents : OrderedMap Tree} (formed : (Tree.map documents).Formed) :
    (ofDocuments documents).Formed := by
  intro name state tree loaded
  unfold ofDocuments Loader.pure at loaded
  dsimp only at loaded
  split at loaded
  · rename_i found
    cases loaded
    exact formed.get? found
  · cases loaded

end Loader
end SceneGraph
