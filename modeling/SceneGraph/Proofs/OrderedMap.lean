import Mathlib.Data.Finset.Card
import Mathlib.Data.List.Induction
import SceneGraph.OrderedMap

/-!
Look-up in maps that were built by insertions: a key holds what was inserted last under it. A list
of entries whose keys differ is the list of entries of its map, so a map can be built from the
entries of another one, each kept, changed or left out. Whatever the insertions were, a map answers
every question from their history: the keys in the order of their first insertions, each with the
value of its last one.
-/
namespace SceneGraph

theorem eraseDups_append_singleton {κ : Type} [DecidableEq κ] (keys : List κ) (key : κ) :
    (keys ++ [key]).eraseDups = if key ∈ keys then keys.eraseDups else keys.eraseDups ++ [key] := by
  rw [List.eraseDups_append]
  by_cases earlier : key ∈ keys
  · simp [List.removeAll, earlier]
  · simp [List.removeAll, List.eraseDups_cons, earlier]

namespace OrderedMap

variable {α β : Type} {map : OrderedMap α}

theorem WellFormed.get?_insert (formed : map.WellFormed) (key other : String) (value : α) :
    (map.insert key value).get? other = if other = key then some value else map.get? other := by
  have length : map.keys.length = map.entries.length := List.length_map _
  unfold OrderedMap.get? OrderedMap.insert
  cases found : map.index[key]? with
  | some position =>
    have present := (formed.index_eq_some_iff key position).mp found
    by_cases same : other = key
    · subst same
      have bound := (List.getElem?_eq_some_iff.mp present).1
      simp [found, List.getElem?_set_self (length ▸ bound)]
    · rw [if_neg same]
      cases located : map.index[other]? with
      | none => rfl
      | some place =>
        have apart : position ≠ place := by
          rintro rfl
          have there := (formed.index_eq_some_iff other position).mp located
          exact same (Option.some.inj (there.symm.trans present))
        simp [List.getElem?_set_ne apart]
  | none =>
    simp only [Std.TreeMap.getElem?_insert, Std.compare_eq_iff_eq]
    by_cases same : other = key
    · simp [same]
    · rw [if_neg same, if_neg (Ne.symm same)]
      cases located : map.index[other]? with
      | none => rfl
      | some place =>
        have there := (formed.index_eq_some_iff other place).mp located
        have bound := (List.getElem?_eq_some_iff.mp there).1
        simp [List.getElem?_append_left (length ▸ bound)]

theorem get?_ofList (entries : List (String × α)) (key : String) :
    (ofList entries).get? key =
      (entries.reverse.find? fun entry => entry.1 = key).map Prod.snd := by
  induction entries using List.reverseRecOn with
  | nil => simp [get?, empty]
  | append_singleton earlier entry ih =>
    rw [ofList_append, List.foldl_cons, List.foldl_nil,
      (wellFormed_ofList earlier).get?_insert, ih]
    by_cases same : key = entry.1
    · simp [same]
    · simp [same, Ne.symm same]

theorem WellFormed.get?_eq_some_iff (formed : map.WellFormed) {key : String} {value : α} :
    map.get? key = some value ↔ (key, value) ∈ map.entries := by
  unfold OrderedMap.get?
  constructor
  · intro found
    obtain ⟨position, located, read⟩ := Option.bind_eq_some_iff.mp found
    obtain ⟨entry, listed, rfl⟩ := Option.map_eq_some_iff.mp read
    have named : map.keys[position]? = some key :=
      (formed.index_eq_some_iff key position).mp located
    rw [keys, List.getElem?_map, listed] at named
    obtain rfl := Option.some.inj named
    exact List.mem_of_getElem? listed
  · intro member
    obtain ⟨position, listed⟩ := List.getElem?_of_mem member
    have named : map.keys[position]? = some key := by
      rw [keys, List.getElem?_map, listed]
      rfl
    rw [(formed.index_eq_some_iff key position).mpr named, Option.bind_some, listed]
    rfl

theorem entries_ofList {entries : List (String × α)} (nodup : (entries.map Prod.fst).Nodup) :
    (ofList entries).entries = entries := by
  induction entries using List.reverseRecOn with
  | nil => rfl
  | append_singleton earlier entry ih =>
    rw [List.map_append, List.nodup_append] at nodup
    obtain ⟨distinct, _, apart⟩ := nodup
    have new : entry.1 ∉ (ofList earlier).keys := by
      rw [keys, ih distinct]
      exact fun member => apart _ member _ (by simp) rfl
    rw [ofList_append, List.foldl_cons, List.foldl_nil, OrderedMap.insert,
      ((wellFormed_ofList earlier).index_eq_none_iff entry.1).mpr new, ih distinct]

theorem lookup_eq_some_iff_mem {entries : List (String × α)}
    (nodup : (entries.map Prod.fst).Nodup) {key : String} {value : α} :
    entries.lookup key = some value ↔ (key, value) ∈ entries := by
  rw [List.lookup_eq_some_iff]
  constructor
  · rintro ⟨earlier, later, rfl, -⟩
    simp
  · intro member
    obtain ⟨earlier, later, rfl⟩ := List.append_of_mem member
    refine ⟨earlier, later, rfl, fun entry inside => bne_iff_ne.mpr fun same => ?_⟩
    rw [List.map_append, List.nodup_append] at nodup
    exact nodup.2.2 _ (List.mem_map_of_mem inside) _ (.head _) same.symm

theorem get?_ofList_of_nodup {entries : List (String × α)} (nodup : (entries.map Prod.fst).Nodup)
    (key : String) : (ofList entries).get? key = entries.lookup key := by
  refine Option.ext fun value => ?_
  rw [(wellFormed_ofList entries).get?_eq_some_iff, entries_ofList nodup,
    lookup_eq_some_iff_mem nodup]

/-- The entries with an image, under their keys. -/
def chosen (image : String → α → Option β) (entries : List (String × α)) : List (String × β) :=
  entries.filterMap fun entry => (image entry.1 entry.2).map (Prod.mk entry.1)

theorem WellFormed.entries_chosen (formed : map.WellFormed) (image : String → α → Option β) :
    (ofList (chosen image map.entries)).entries = chosen image map.entries := by
  refine entries_ofList (formed.keys_nodup.sublist ?_)
  unfold keys chosen
  generalize map.entries = entries
  induction entries with
  | nil => exact .slnil
  | cons entry rest ih =>
    rw [List.filterMap_cons]
    cases image entry.1 entry.2 with
    | none => exact ih.cons entry.1
    | some value => exact ih.cons_cons entry.1

theorem WellFormed.get?_chosen (formed : map.WellFormed) (image : String → α → Option β)
    (key : String) :
    (ofList (chosen image map.entries)).get? key = (map.get? key).bind (image key) := by
  refine Option.ext fun value => ?_
  rw [(wellFormed_ofList _).get?_eq_some_iff, formed.entries_chosen, chosen,
    List.mem_filterMap, Option.bind_eq_some_iff]
  simp only [formed.get?_eq_some_iff, Option.map_eq_some_iff, Prod.mk.injEq, Prod.exists]
  constructor
  · rintro ⟨_, held, member, _, made, rfl, rfl⟩
    exact ⟨held, member, made⟩
  · rintro ⟨held, member, made⟩
    exact ⟨key, held, member, value, made, rfl, rfl⟩

/-! Histories of insertions -/

/-- The keys that were inserted, in the order of their first insertions. -/
def firstInserted (history : List (String × α)) : List String := (history.map Prod.fst).eraseDups

/-- What was inserted last under a key. -/
def lastInserted? (history : List (String × α)) (key : String) : Option α :=
  (history.reverse.find? fun entry => entry.1 = key).map Prod.snd

/-- Maps that are made empty or from a list of entries and then inserted into, each with everything
that was inserted. -/
inductive Inserted : List (String × α) → OrderedMap α → Prop
  | new : Inserted [] empty
  | listed (entries : List (String × α)) : Inserted entries (ofList entries)
  | next {history : List (String × α)} {map : OrderedMap α} (inserted : Inserted history map)
      (key : String) (value : α) : Inserted (history ++ [(key, value)]) (map.insert key value)

theorem Inserted.eq_ofList {history : List (String × α)} (inserted : Inserted history map) :
    map = ofList history := by
  induction inserted with
  | new => rfl
  | listed => rfl
  | next _ key value ih =>
    rw [ofList_append, ← ih]
    rfl

theorem firstInserted_append (history : List (String × α)) (entry : String × α) :
    firstInserted (history ++ [entry]) =
      if entry.1 ∈ history.map Prod.fst then firstInserted history
      else firstInserted history ++ [entry.1] := by
  rw [firstInserted, List.map_append, List.map_singleton, eraseDups_append_singleton]
  rfl

theorem keys_ofList (history : List (String × α)) :
    (ofList history).keys = firstInserted history := by
  induction history using List.reverseRecOn with
  | nil => rfl
  | append_singleton earlier last ih =>
    have present : last.1 ∈ firstInserted earlier ↔ last.1 ∈ earlier.map Prod.fst :=
      List.mem_eraseDups
    rw [ofList_append, List.foldl_cons, List.foldl_nil, (wellFormed_ofList earlier).keys_insert, ih,
      firstInserted_append]
    simp only [present]

/-- A map is the list of what its keys hold. -/
theorem WellFormed.entries_eq (formed : map.WellFormed) :
    map.entries = map.keys.filterMap fun key => (map.get? key).map (Prod.mk key) := by
  have held : ∀ entry ∈ map.entries,
      ((fun key => (map.get? key).map (Prod.mk key)) ∘ Prod.fst) entry = some entry := by
    intro entry member
    rw [Function.comp_apply, formed.get?_eq_some_iff.mpr member]
    rfl
  rw [keys, List.filterMap_map, List.filterMap_congr held, List.filterMap_some]

/-- What a map is after insertions. -/
structure Reflects (map : OrderedMap α) (history : List (String × α)) : Prop where
  formed : map.WellFormed
  /-- Look-up and replacement stay within the entries. -/
  bounded : ∀ (key : String) (position : Nat), map.index[key]? = some position → position < map.entries.length
  keys_eq : map.keys = firstInserted history
  /-- Every key stands once, at the place of its first insertion, with the value of its last. -/
  entries_eq : map.entries =
    (firstInserted history).filterMap fun key => (lastInserted? history key).map (Prod.mk key)
  get?_eq : ∀ key, map.get? key = lastInserted? history key
  get?_eq_none_iff : ∀ key, map.get? key = none ↔ ∀ entry ∈ history, entry.1 ≠ key
  size_eq : map.size = (history.map Prod.fst).toFinset.card

theorem reflects_ofList (history : List (String × α)) : (ofList history).Reflects history := by
  have formed := wellFormed_ofList history
  have keys_eq := keys_ofList history
  have get?_eq : (ofList history).get? = lastInserted? history := funext (get?_ofList history)
  refine ⟨formed, ?_, keys_eq, ?_, congrFun get?_eq, ?_, ?_⟩
  · intro key position located
    have present := (formed.index_eq_some_iff key position).mp located
    have inside := (List.getElem?_eq_some_iff.mp present).1
    rwa [keys, List.length_map] at inside
  · rw [formed.entries_eq, keys_eq, get?_eq]
  · intro key
    rw [get?_eq, lastInserted?, Option.map_eq_none_iff, List.find?_eq_none]
    simp
  · have same : (ofList history).keys.toFinset = (history.map Prod.fst).toFinset := by
      ext key
      rw [List.mem_toFinset, List.mem_toFinset, keys_eq, firstInserted, List.mem_eraseDups]
    rw [← same, List.toFinset_card_of_nodup formed.keys_nodup, size, keys, List.length_map]

/-- A key that comes again keeps its place. -/
example : (ofList [("lamp", 1), ("desk", 2), ("lamp", 3)]).entries = [("lamp", 3), ("desk", 2)] := by
  decide +kernel

theorem Inserted.reflects {history : List (String × α)} (inserted : Inserted history map) :
    map.Reflects history := by
  rw [inserted.eq_ofList]
  exact reflects_ofList history

end OrderedMap
end SceneGraph
