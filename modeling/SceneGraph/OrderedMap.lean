import Std.Data.TreeMap

/-!
Maps with string keys that keep the order in which keys first arrived. The entries are a list in
that order, and an index holds each key's position, so that look-up and replacement do not walk
the keys. `WellFormed` says that the two agree; every map built with `empty` and `insert` is so.
-/
namespace SceneGraph

structure OrderedMap (α : Type) where
  entries : List (String × α)
  index : Std.TreeMap String Nat

namespace OrderedMap

variable {α β : Type}

def empty : OrderedMap α := ⟨[], ∅⟩

instance : Inhabited (OrderedMap α) := ⟨empty⟩

/-- A present key keeps its position and takes the new value; a new key goes to the end. -/
def insert (map : OrderedMap α) (key : String) (value : α) : OrderedMap α :=
  match map.index[key]? with
  | some position => { map with entries := map.entries.set position (key, value) }
  | none => ⟨map.entries ++ [(key, value)], map.index.insert key map.entries.length⟩

def get? (map : OrderedMap α) (key : String) : Option α :=
  map.index[key]?.bind fun position => map.entries[position]?.map Prod.snd

def size (map : OrderedMap α) : Nat := map.entries.length

def isEmpty (map : OrderedMap α) : Bool := map.entries.isEmpty

def keys (map : OrderedMap α) : List String := map.entries.map Prod.fst

def values (map : OrderedMap α) : List α := map.entries.map Prod.snd

/-- The entries inserted one by one, so a repeated key keeps its first position and its last
value. -/
def ofList (entries : List (String × α)) : OrderedMap α :=
  entries.foldl (fun map entry => map.insert entry.1 entry.2) empty

/-- Keys occur once, and the index sends exactly the keys to their positions. -/
structure WellFormed (map : OrderedMap α) : Prop where
  keys_nodup : map.keys.Nodup
  index_eq_some_iff : ∀ (key : String) (position : Nat),
    map.index[key]? = some position ↔ map.keys[position]? = some key

@[simp] theorem entries_empty : (empty : OrderedMap α).entries = [] := rfl

@[simp] theorem ofList_nil : ofList ([] : List (String × α)) = empty := rfl

theorem ofList_append (first second : List (String × α)) :
    ofList (first ++ second) =
      second.foldl (fun map entry => map.insert entry.1 entry.2) (ofList first) := by
  simp [ofList]

theorem wellFormed_empty : (empty : OrderedMap α).WellFormed where
  keys_nodup := by simp [keys]
  index_eq_some_iff := by simp [empty, keys]

theorem WellFormed.index_eq_none_iff {map : OrderedMap α} (formed : map.WellFormed)
    (key : String) : map.index[key]? = none ↔ key ∉ map.keys := by
  constructor
  · intro absent member
    obtain ⟨position, found⟩ := List.getElem?_of_mem member
    rw [(formed.index_eq_some_iff key position).mpr found] at absent
    exact Option.some_ne_none _ absent
  · intro absent
    cases found : map.index[key]? with
    | none => rfl
    | some position =>
      exact absurd (List.mem_of_getElem? ((formed.index_eq_some_iff key position).mp found)) absent

private theorem keys_set {map : OrderedMap α} {key : String} {position : Nat} (value : α)
    (found : map.keys[position]? = some key) :
    ((map.entries.set position (key, value)).map Prod.fst) = map.keys := by
  apply List.ext_getElem?
  intro other
  rw [List.map_set]
  by_cases same : position = other
  · subst same
    have bound : position < (map.entries.map Prod.fst).length :=
      (List.getElem?_eq_some_iff.mp found).1
    rw [List.getElem?_set_self bound]
    exact found.symm
  · rw [List.getElem?_set_ne same]
    rfl

theorem WellFormed.keys_insert {map : OrderedMap α} (formed : map.WellFormed) (key : String)
    (value : α) :
    (map.insert key value).keys = if key ∈ map.keys then map.keys else map.keys ++ [key] := by
  unfold insert
  split
  · rename_i position found
    have present := (formed.index_eq_some_iff key position).mp found
    rw [if_pos (List.mem_of_getElem? present)]
    exact keys_set value present
  · rename_i absent
    rw [if_neg ((formed.index_eq_none_iff key).mp absent)]
    simp [keys]

theorem WellFormed.insert {map : OrderedMap α} (formed : map.WellFormed) (key : String)
    (value : α) : (map.insert key value).WellFormed := by
  constructor
  · rw [formed.keys_insert]
    split
    · exact formed.keys_nodup
    · rename_i absent
      rw [List.nodup_append]
      refine ⟨formed.keys_nodup, by simp, ?_⟩
      intro first member last added same
      have isKey : first = key := same.trans (List.mem_singleton.mp added)
      exact absent (isKey ▸ member)
  · intro other position
    rw [formed.keys_insert]
    cases found : map.index[key]? with
    | some place =>
      have present := List.mem_of_getElem? ((formed.index_eq_some_iff key place).mp found)
      rw [if_pos present]
      simpa [OrderedMap.insert, found] using formed.index_eq_some_iff other position
    | none =>
      have absent := (formed.index_eq_none_iff key).mp found
      rw [if_neg absent]
      have length : map.keys.length = map.entries.length := by simp [keys]
      simp only [OrderedMap.insert, found, Std.TreeMap.getElem?_insert, Std.compare_eq_iff_eq]
      by_cases same : key = other
      · subst same
        simp only [if_true, Option.some.injEq]
        constructor
        · rintro rfl
          simp [← length]
        · intro located
          by_cases inside : position < map.keys.length
          · rw [List.getElem?_append_left inside] at located
            exact absurd (List.mem_of_getElem? located) absent
          · rw [List.getElem?_append_right (by omega)] at located
            have first : position - map.keys.length < 1 :=
              (List.getElem?_eq_some_iff.mp located).1
            omega
      · rw [if_neg same, formed.index_eq_some_iff other position]
        by_cases inside : position < map.keys.length
        · rw [List.getElem?_append_left inside]
        · rw [List.getElem?_append_right (by omega), List.getElem?_eq_none (by omega)]
          cases gap : position - map.keys.length with
          | zero => simp [same]
          | succ _ => simp

theorem wellFormed_ofList (entries : List (String × α)) : (ofList entries).WellFormed := by
  suffices grows : ∀ (entries : List (String × α)) (map : OrderedMap α), map.WellFormed →
      (entries.foldl (fun map entry => map.insert entry.1 entry.2) map).WellFormed from
    grows entries empty wellFormed_empty
  intro entries
  induction entries with
  | nil => exact fun _ formed => formed
  | cons entry entries ih => exact fun _ formed => ih _ (formed.insert entry.1 entry.2)

end OrderedMap
end SceneGraph
