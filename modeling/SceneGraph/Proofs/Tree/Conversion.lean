import SceneGraph.Proofs.Binary.Patterns
import SceneGraph.Proofs.Tree.Equality

/-!
Trees of JSON values, place by place. A path leads somewhere in the tree just if it leads somewhere
in the value, and there to the tree of what it leads to. So the tree of a value tells everything
about the value but how its numbers were written, and two values become equal trees just if they
are alike at every place.
-/
namespace SceneGraph
open Binary

/-- One step down a document. -/
inductive PathStep where
  | field (name : String)
  | item (position : Nat)

namespace Json

/-- The members of every object have different names. -/
inductive Distinct : Json → Prop
  | null : Distinct .null
  | bool (value : Bool) : Distinct (.bool value)
  | number (value : Number) : Distinct (.number value)
  | string (value : String) : Distinct (.string value)
  | array {items : List Json} (below : ∀ item ∈ items, Distinct item) : Distinct (.array items)
  | object {members : List (String × Json)} (names : (members.map Prod.fst).Nodup)
      (below : ∀ member ∈ members, Distinct member.2) : Distinct (.object members)

/-- Values of one shape, with the same names in order at every object, the same texts and truth
values, and numbers that are equal as doubles. -/
inductive Alike : Json → Json → Prop
  | null : Alike .null .null
  | bool (value : Bool) : Alike (.bool value) (.bool value)
  | number {value other : Number} (same : (value.toFloat == other.toFloat) = true) :
      Alike (.number value) (.number other)
  | string (value : String) : Alike (.string value) (.string value)
  | array {items others : List Json} (same : List.Forall₂ Alike items others) :
      Alike (.array items) (.array others)
  | object {members others : List (String × Json)}
      (names : members.map Prod.fst = others.map Prod.fst)
      (values : List.Forall₂ Alike (members.map Prod.snd) (others.map Prod.snd)) :
      Alike (.object members) (.object others)

def step? : Json → PathStep → Option Json
  | .object members, .field name => members.lookup name
  | .array items, .item position => items[position]?
  | _, _ => none

def follow? (json : Json) (path : List PathStep) : Option Json := path.foldlM step? json

theorem Distinct.step? {json value : Json} {step : PathStep} (distinct : json.Distinct)
    (stepped : json.step? step = some value) : value.Distinct := by
  cases distinct with
  | array below =>
    cases step with
    | field => cases stepped
    | item position => exact below value (List.mem_of_getElem? stepped)
  | object names below =>
    cases step with
    | field name => exact below _ ((OrderedMap.lookup_eq_some_iff_mem names).mp stepped)
    | item => cases stepped
  | null | bool _ | number _ | string _ => cases stepped

theorem Distinct.follow? {json value : Json} {path : List PathStep} (distinct : json.Distinct)
    (followed : json.follow? path = some value) : value.Distinct := by
  induction path generalizing json with
  | nil =>
    cases followed
    exact distinct
  | cons step path ih =>
    obtain ⟨next, stepped, later⟩ := Option.bind_eq_some_iff.mp followed
    exact ih (distinct.step? stepped) later

end Json

namespace Tree

def step? (tree : Tree) : PathStep → Option Tree
  | .field name => tree.get? name
  | .item position => tree.items?.bind fun items => items[position]?

def follow? (tree : Tree) (path : List PathStep) : Option Tree := path.foldlM step? tree

theorem ofItems_eq (items : List Json) : ofItems items = items.map ofJson := by
  induction items with
  | nil => rw [ofItems, List.map_nil]
  | cons item items ih => rw [ofItems, ih, List.map_cons]

theorem ofMembers_eq (members : List (String × Json)) :
    ofMembers members = members.map fun member => (member.1, ofJson member.2) := by
  induction members with
  | nil => rw [ofMembers, List.map_nil]
  | cons member members ih => rw [ofMembers, ih, List.map_cons]

theorem names_ofMembers (members : List (String × Json)) :
    (ofMembers members).map Prod.fst = members.map Prod.fst := by
  rw [ofMembers_eq, List.map_map]
  rfl

theorem values_ofMembers (members : List (String × Json)) :
    (ofMembers members).map Prod.snd = (members.map Prod.snd).map ofJson := by
  rw [ofMembers_eq, List.map_map, List.map_map]
  rfl

theorem lookup_ofMembers (members : List (String × Json)) (name : String) :
    (ofMembers members).lookup name = (members.lookup name).map ofJson := by
  induction members with
  | nil => rw [ofMembers]; rfl
  | cons member members ih =>
    rw [ofMembers, List.lookup_cons, List.lookup_cons, ih]
    cases name == member.1 <;> rfl

section Objects
variable {members : List (String × Json)} (names : (members.map Prod.fst).Nodup)
include names

theorem entries_ofMembers : (OrderedMap.ofList (ofMembers members)).entries = ofMembers members :=
  OrderedMap.entries_ofList (names_ofMembers members ▸ names)

theorem get?_ofMembers (name : String) :
    (OrderedMap.ofList (ofMembers members)).get? name = (members.lookup name).map ofJson := by
  rw [OrderedMap.get?_ofList_of_nodup (names_ofMembers members ▸ names), lookup_ofMembers]

theorem keys_ofMembers : (OrderedMap.ofList (ofMembers members)).keys = members.map Prod.fst := by
  rw [OrderedMap.keys, entries_ofMembers names, names_ofMembers]

theorem values_ofList_ofMembers :
    (OrderedMap.ofList (ofMembers members)).values = (members.map Prod.snd).map ofJson := by
  rw [OrderedMap.values, entries_ofMembers names, values_ofMembers]

end Objects

section Paths
variable {json : Json} (distinct : json.Distinct)
include distinct

theorem step?_ofJson (step : PathStep) : (ofJson json).step? step = (json.step? step).map ofJson := by
  cases distinct with
  | array below =>
    cases step with
    | field => rw [ofJson]; rfl
    | item position =>
      rw [ofJson, ofItems_eq]
      exact List.getElem?_map
  | object names below =>
    cases step with
    | field name =>
      rw [ofJson]
      exact get?_ofMembers names name
    | item => rw [ofJson]; rfl
  | null | bool _ | number _ | string _ => cases step <;> rw [ofJson] <;> rfl

theorem follow?_ofJson (path : List PathStep) :
    (ofJson json).follow? path = (json.follow? path).map ofJson := by
  induction path generalizing json with
  | nil => rfl
  | cons step path ih =>
    rw [follow?, Json.follow?, List.foldlM_cons, List.foldlM_cons, step?_ofJson distinct]
    cases stepped : json.step? step with
    | none => rfl
    | some value => exact ih (distinct.step? stepped)

/-- Every place of the tree is the tree of the same place of the value. -/
theorem exists_followed {path : List PathStep} {tree : Tree}
    (reached : (ofJson json).follow? path = some tree) :
    ∃ value, json.follow? path = some value ∧ value.Distinct ∧ ofJson value = tree := by
  rw [follow?_ofJson distinct] at reached
  obtain ⟨value, followed, made⟩ := Option.map_eq_some_iff.mp reached
  exact ⟨value, followed, distinct.follow? followed, made⟩

theorem exists_object {path : List PathStep} {fields : OrderedMap Tree}
    (reached : (ofJson json).follow? path = some (.map fields)) :
    ∃ members, json.follow? path = some (.object members) ∧
      fields.keys = members.map Prod.fst ∧ fields.size = members.length := by
  obtain ⟨value, followed, placed, made⟩ := exists_followed distinct reached
  rw [ofJson.eq_def] at made
  cases placed with
  | object names below =>
    cases made
    have keys := keys_ofMembers names
    have size := congrArg List.length keys
    rw [OrderedMap.keys, List.length_map, List.length_map] at size
    exact ⟨_, followed, keys, size⟩
  | null | bool _ | number _ | string _ | array _ => cases made

theorem exists_array {path : List PathStep} {items : List Tree}
    (reached : (ofJson json).follow? path = some (.sequence items)) :
    ∃ values, json.follow? path = some (.array values) ∧ items.length = values.length := by
  obtain ⟨value, followed, placed, made⟩ := exists_followed distinct reached
  rw [ofJson.eq_def] at made
  cases placed with
  | array below =>
    cases made
    refine ⟨_, followed, ?_⟩
    rw [ofItems_eq, List.length_map]
  | null | bool _ | number _ | string _ | object _ _ => cases made

end Paths

/-- A tree that is made like a value: whatever a path reaches in one it reaches in the other. -/
structure KeepsPaths (tree : Tree) (json : Json) : Prop where
  follow?_eq : ∀ path, tree.follow? path = (json.follow? path).map ofJson
  fields : ∀ path fields, tree.follow? path = some (.map fields) →
    ∃ members, json.follow? path = some (.object members) ∧
      fields.keys = members.map Prod.fst ∧ fields.size = members.length
  items : ∀ path items, tree.follow? path = some (.sequence items) →
    ∃ values, json.follow? path = some (.array values) ∧ items.length = values.length

/-- Values become equal trees just if they are alike. -/
theorem equal_ofJson_iff {json other : Json} (distinct : json.Distinct)
    (otherDistinct : other.Distinct) : (ofJson json).Equal (ofJson other) ↔ json.Alike other := by
  induction distinct generalizing other with
  | null =>
    cases otherDistinct with
    | null => exact iff_of_true .null .null
    | _ => exact iff_of_false (by simp only [ofJson]; nofun) nofun
  | bool value =>
    cases otherDistinct with
    | bool other =>
      rw [ofJson, ofJson, equal_scalar, Scalar.same, beq_iff_eq]
      exact ⟨fun | rfl => .bool _, fun | .bool _ => rfl⟩
    | number _ | string _ => exact iff_of_false (by simp [ofJson, equal_scalar, Scalar.same]) nofun
    | _ => exact iff_of_false (by simp only [ofJson]; nofun) nofun
  | number value =>
    cases otherDistinct with
    | number other =>
      rw [ofJson, ofJson, equal_scalar, Scalar.same, Double.toFloat_ofFloat,
        Double.toFloat_ofFloat]
      exact ⟨.number, fun | .number same => same⟩
    | bool _ | string _ => exact iff_of_false (by simp [ofJson, equal_scalar, Scalar.same]) nofun
    | _ => exact iff_of_false (by simp only [ofJson]; nofun) nofun
  | string value =>
    cases otherDistinct with
    | string other =>
      rw [ofJson, ofJson, equal_scalar, Scalar.same, beq_iff_eq]
      exact ⟨fun | rfl => .string _, fun | .string _ => rfl⟩
    | bool _ | number _ => exact iff_of_false (by simp [ofJson, equal_scalar, Scalar.same]) nofun
    | _ => exact iff_of_false (by simp only [ofJson]; nofun) nofun
  | array _ ih =>
    cases otherDistinct with
    | array otherBelow =>
      rw [ofJson, ofJson, equal_sequence, ofItems_eq, ofItems_eq, List.forall₂_map_left_iff,
        List.forall₂_map_right_iff, forall₂_congr fun item member other otherMember =>
          ih item member (otherBelow other otherMember)]
      exact ⟨.array, fun | .array same => same⟩
    | _ => exact iff_of_false (by simp only [ofJson]; nofun) nofun
  | object names _ ih =>
    cases otherDistinct with
    | object otherNames otherBelow =>
      rw [ofJson, ofJson, equal_map, keys_ofMembers names, keys_ofMembers otherNames,
        values_ofList_ofMembers names, values_ofList_ofMembers otherNames,
        List.forall₂_map_left_iff, List.forall₂_map_right_iff, forall₂_congr ?_]
      · exact ⟨fun ⟨names, values⟩ => .object names values,
          fun | .object names values => ⟨names, values⟩⟩
      · intro value member held heldMember
        obtain ⟨listed, present, rfl⟩ := List.mem_map.mp member
        obtain ⟨other, otherPresent, rfl⟩ := List.mem_map.mp heldMember
        exact ih listed present (otherBelow other otherPresent)
    | _ => exact iff_of_false (by simp only [ofJson]; nofun) nofun

/-- Conversion keeps every place of a value, and tells values apart that are not alike. -/
theorem ofJson_keeps_places {json other : Json} (distinct : json.Distinct)
    (otherDistinct : other.Distinct) :
    (ofJson json).KeepsPaths json ∧ ((ofJson json == ofJson other) = true ↔ json.Alike other) := by
  refine ⟨⟨follow?_ofJson distinct, fun _ _ => exists_object distinct,
    fun _ _ => exists_array distinct⟩, ?_⟩
  have same := (formed_ofJson json).same_iff (formed_ofJson other)
  exact same.trans (equal_ofJson_iff distinct otherDistinct)

/-- A lamp as a document, with a given size. -/
def lampDocument (size : Json.Number) : Json :=
  .object [("type", .string "entity"), ("scale", .array [.number size, .null])]

theorem lampDocument_distinct (size : Json.Number) : (lampDocument size).Distinct := by
  refine .object (by simp) ?_
  simp only [List.forall_mem_cons]
  refine ⟨.string _, .array ?_, List.forall_mem_nil _⟩
  simp only [List.forall_mem_cons]
  exact ⟨.number _, .null, List.forall_mem_nil _⟩

theorem lampDocument_alike {size other : Json.Number}
    (same : (size.toFloat == other.toFloat) = true) :
    (lampDocument size).Alike (lampDocument other) :=
  .object rfl (.cons (.string _) (.cons (.array (.cons (.number same) (.cons .null .nil))) .nil))

/-- The size is written as an integer and as a fraction. -/
theorem lampDocument_keeps_places :
    (lampDocument (.integer 2)).Distinct ∧ (lampDocument (.double 2.0)).Distinct ∧
      (ofJson (lampDocument (.integer 2))).KeepsPaths (lampDocument (.integer 2)) ∧
      (ofJson (lampDocument (.integer 2)) == ofJson (lampDocument (.double 2.0))) = true :=
  have kept := ofJson_keeps_places (lampDocument_distinct (.integer 2))
    (lampDocument_distinct (.double 2.0))
  ⟨lampDocument_distinct _, lampDocument_distinct _, kept.1,
    kept.2.mpr (lampDocument_alike (by decide +kernel))⟩

end Tree
end SceneGraph
