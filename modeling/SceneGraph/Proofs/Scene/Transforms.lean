import SceneGraph.Proofs.Scene.Evaluation

/-!
Declared transforms. Position, rotation and scale are vectors, each of which may be left out, short
or too long. The first part that is no vector is the fault of the whole, and within it the first of
three items that is no number.
-/
namespace SceneGraph

/-- What can stand for a vector: nothing, null, or a sequence that begins with numbers. Items after
the third do not matter. -/
inductive HoldsVector : Option Tree → Prop
  | missing : HoldsVector none
  | null : HoldsVector (some .null)
  | sequence {items : List Tree} (numbers : ∀ item ∈ items.take 3, item.float32?.isSome) :
      HoldsVector (some (.sequence items))

/-- The number for an axis, if one is given. -/
def axisOf (default : Float32) (index : Nat) : Option Tree → Float32
  | some (.sequence items) => (items[index]?.bind Tree.float32?).getD default
  | _ => default

def vectorOf (default : Float32) (held : Option Tree) : Vec3 :=
  ⟨axisOf default 0 held, axisOf default 1 held, axisOf default 2 held⟩

/-- Why what stands in a field is no vector. -/
inductive VectorFault (field : String) : Option Tree → ConstructError → Prop
  | notSequence {tree : Tree} (notNull : tree.isNull = false) (notSequence : tree.items? = none) :
      VectorFault field (some tree) (.expectedSequence field tree.shape)
  | notNumber {before after : List Tree} {item : Tree} (early : before.length < 3)
      (numbers : ∀ earlier ∈ before, earlier.float32?.isSome) (noNumber : item.float32? = none) :
      VectorFault field (some (.sequence (before ++ item :: after)))
        (.expectedNumber field item.shape)

/-- A field whose missing items are filled in with the default, or that goes on after the third. -/
inductive Lengthened (default : Float32) : Option Tree → Option Tree → Prop
  | refl (held : Option Tree) : Lengthened default held held
  | missing {pads : List Tree} (defaults : ∀ pad ∈ pads, pad.float32? = some default) :
      Lengthened default none (some (.sequence pads))
  | null {pads : List Tree} (defaults : ∀ pad ∈ pads, pad.float32? = some default) :
      Lengthened default (some .null) (some (.sequence pads))
  | short {items pads : List Tree} (defaults : ∀ pad ∈ pads, pad.float32? = some default) :
      Lengthened default (some (.sequence items)) (some (.sequence (items ++ pads)))
  | long {items : List Tree} (enough : 3 ≤ items.length) (others : List Tree) :
      Lengthened default (some (.sequence items)) (some (.sequence (items ++ others)))

namespace Transform

/-- The parts of a declared transform. -/
inductive Part where
  | position
  | rotation
  | scale
deriving DecidableEq, Repr

namespace Part

def field : Part → String
  | position => "position"
  | rotation => "rotation"
  | scale => "scale"

def default : Part → Float32
  | position => 0.0
  | rotation => 0.0
  | scale => 1.0

/-- The parts in the order in which they are read. -/
def all : List Part := [position, rotation, scale]

end Part

/-- The data declare a transform: they are null or a map, and every part is a vector. -/
structure Declares (data : Tree) : Prop where
  form : data.isNull ∨ data.fields?.isSome
  parts : ∀ part : Part, HoldsVector (data.get? part.field)

def Part.numbers (part : Part) (data : Tree) : Vec3 := vectorOf part.default (data.get? part.field)

/-- The numbers that are given or left to their defaults; a rotation is given in turns, of which
each makes `2π` radians. -/
def declared (data : Tree) : Transform where
  position := Part.position.numbers data
  rotation :=
    let turns := Part.rotation.numbers data
    ⟨turns.x * 6.283185307179586, turns.y * 6.283185307179586, turns.z * 6.283185307179586⟩
  scale := Part.scale.numbers data

/-- The fault of the first among the parts that has one. -/
inductive FirstFault (fields : OrderedMap Tree) : List Part → ConstructError → Prop
  | here {part : Part} {rest : List Part} {error : ConstructError}
      (fault : VectorFault part.field (fields.get? part.field) error) :
      FirstFault fields (part :: rest) error
  | later {part : Part} {rest : List Part} {error : ConstructError}
      (vector : HoldsVector (fields.get? part.field)) (fault : FirstFault fields rest error) :
      FirstFault fields (part :: rest) error

inductive Faulty : Tree → ConstructError → Prop
  | notMap {data : Tree} (notNull : data.isNull = false) (notMap : data.fields? = none) :
      Faulty data (.expectedMap data.shape)
  | part {fields : OrderedMap Tree} {error : ConstructError}
      (fault : FirstFault fields Part.all error) : Faulty (.map fields) error

/-- All that can be said of reading data as a transform. -/
structure Reads (data : Tree) (result : Except ConstructError Transform) : Prop where
  accepted : ∀ transform, result = .ok transform ↔ Declares data ∧ transform = declared data
  refused : ∀ error, result = .error error ↔ Faulty data error
  decided : Declares data ∨ ∃ error, Faulty data error
  identity : data.isNull ∨ data.fields?.isSome →
    (∀ part : Part, data.get? part.field = none ∨ data.get? part.field = some .null) →
      result = .ok .identity ∧ Transform.identity = ⟨⟨0, 0, 0⟩, ⟨0, 0, 0⟩, ⟨1, 1, 1⟩⟩
  lengthened : ∀ other, data.fields?.isSome → other.fields?.isSome →
    (∀ part : Part, Lengthened part.default (data.get? part.field) (other.get? part.field)) →
      ofTree other = result

end Transform

section Items
variable {items : List Tree}

theorem mapM_numberIn (field : String) (numbers : ∀ item ∈ items, item.float32?.isSome) :
    ∃ values, items.mapM (Tree.numberIn field) = .ok values ∧
      ∀ index : Nat, values[index]? = items[index]?.bind Tree.float32? := by
  induction items with
  | nil => exact ⟨[], rfl, fun _ => rfl⟩
  | cons item rest ih =>
    obtain ⟨first, later⟩ := List.forall_mem_cons.mp numbers
    obtain ⟨value, found⟩ := Option.isSome_iff_exists.mp first
    obtain ⟨values, read, each⟩ := ih later
    have number : item.numberIn field = .ok value := by rw [Tree.numberIn, found]
    refine ⟨value :: values, ?_, fun index => ?_⟩
    · rw [List.mapM_cons, number, read]
      rfl
    · cases index with
      | zero => simp [found]
      | succ index => simp [each]

theorem mapM_numberIn_error (field : String) {before after : List Tree} {item : Tree}
    (numbers : ∀ earlier ∈ before, earlier.float32?.isSome) (noNumber : item.float32? = none) :
    (before ++ item :: after).mapM (Tree.numberIn field) =
      .error (.expectedNumber field item.shape) := by
  have fault : item.numberIn field = .error (.expectedNumber field item.shape) := by
    rw [Tree.numberIn, noNumber]
  obtain ⟨values, read, _⟩ := mapM_numberIn field numbers
  rw [List.mapM_append, read, List.mapM_cons, fault]
  rfl

/-- Of the items that count, all are numbers or there is a first one that is not. -/
theorem numbers_or_first (items : List Tree) :
    (∀ item ∈ items, item.float32?.isSome) ∨
      ∃ before item after, items = before ++ item :: after ∧
        (∀ earlier ∈ before, earlier.float32?.isSome) ∧ item.float32? = none := by
  induction items with
  | nil => exact .inl (List.forall_mem_nil _)
  | cons item rest ih =>
    cases found : item.float32? with
    | none => exact .inr ⟨[], item, rest, rfl, List.forall_mem_nil _, found⟩
    | some value =>
      have first : item.float32?.isSome := by rw [found, Option.isSome_some]
      rcases ih with numbers | ⟨before, bad, after, rfl, numbers, noNumber⟩
      · exact .inl (List.forall_mem_cons.mpr ⟨first, numbers⟩)
      · exact .inr ⟨item :: before, bad, after, rfl, List.forall_mem_cons.mpr ⟨first, numbers⟩,
          noNumber⟩

end Items

section Fields
variable {fields : OrderedMap Tree} {field : String}

theorem vectorField_ok (default : Float32) (vector : HoldsVector (fields.get? field)) :
    vectorField fields field default = .ok (vectorOf default (fields.get? field)) := by
  unfold vectorField
  generalize fields.get? field = held at vector
  cases vector with
  | missing => rfl
  | null => rfl
  | @sequence items numbers =>
    obtain ⟨values, read, each⟩ := mapM_numberIn field numbers
    dsimp only
    rw [axesOf, read, Except.map, each, each, each]
    simp only [vectorOf, axisOf, List.getElem?_take_of_lt (show 0 < 3 by decide),
      List.getElem?_take_of_lt (show 1 < 3 by decide),
      List.getElem?_take_of_lt (show 2 < 3 by decide)]

theorem vectorField_error (default : Float32) {error : ConstructError}
    (fault : VectorFault field (fields.get? field) error) :
    vectorField fields field default = .error error := by
  unfold vectorField
  generalize fields.get? field = held at fault
  cases fault with
  | @notSequence tree notNull notSequence =>
    cases tree with
    | null => cases notNull
    | scalar value => rfl
    | sequence items => cases notSequence
    | map inner => rfl
  | @notNumber before after item early numbers noNumber =>
    have counted : (before ++ item :: after).take 3 =
        before ++ item :: after.take (2 - before.length) := by
      rw [List.take_append, List.take_of_length_le (Nat.le_of_lt early),
        show 3 - before.length = 2 - before.length + 1 by omega, List.take_succ_cons]
    dsimp only
    rw [axesOf, counted, mapM_numberIn_error field numbers noNumber]
    rfl

theorem holdsVector_or_fault (field : String) (held : Option Tree) :
    HoldsVector held ∨ ∃ error, VectorFault field held error := by
  rcases held with _ | tree
  · exact .inl .missing
  · cases tree with
    | null => exact .inl .null
    | scalar value => exact .inr ⟨_, .notSequence rfl rfl⟩
    | map inner => exact .inr ⟨_, .notSequence rfl rfl⟩
    | sequence items =>
      rcases numbers_or_first (items.take 3) with numbers | ⟨before, bad, after, split, fine, none⟩
      · exact .inl (.sequence numbers)
      · have early : before.length < 3 := by
          have length := congrArg List.length split
          rw [List.length_take, List.length_append, List.length_cons] at length
          omega
        have whole : before ++ bad :: (after ++ items.drop 3) = items := by
          rw [← List.cons_append, ← List.append_assoc, ← split, List.take_append_drop]
        rw [← whole]
        exact .inr ⟨_, .notNumber early fine none⟩

end Fields

section Lengthening
variable {default : Float32} {held longer : Option Tree}

theorem getD_append_pads (items : List Tree) {pads : List Tree}
    (defaults : ∀ pad ∈ pads, pad.float32? = some default) (index : Nat) :
    ((items ++ pads)[index]?.bind Tree.float32?).getD default =
      (items[index]?.bind Tree.float32?).getD default := by
  by_cases inside : index < items.length
  · rw [List.getElem?_append_left inside]
  · rw [List.getElem?_append_right (Nat.not_lt.mp inside),
      List.getElem?_eq_none (Nat.not_lt.mp inside)]
    cases found : pads[index - items.length]? with
    | none => rfl
    | some pad => simp [defaults pad (List.mem_of_getElem? found)]

theorem Lengthened.vectorOf_eq (lengthened : Lengthened default held longer) :
    vectorOf default longer = vectorOf default held := by
  have axis (index : Nat) (counts : index < 3) :
      axisOf default index longer = axisOf default index held := by
    cases lengthened with
    | refl => rfl
    | missing defaults => exact getD_append_pads [] defaults index
    | null defaults => exact getD_append_pads [] defaults index
    | short defaults => exact getD_append_pads _ defaults index
    | long enough others =>
      simp only [axisOf, List.getElem?_append_left (Nat.lt_of_lt_of_le counts enough)]
  rw [vectorOf, vectorOf, axis 0 (by decide), axis 1 (by decide), axis 2 (by decide)]

theorem Lengthened.holdsVector (lengthened : Lengthened default held longer)
    (vector : HoldsVector held) : HoldsVector longer := by
  have numbers {pads : List Tree} (defaults : ∀ pad ∈ pads, pad.float32? = some default) :
      ∀ pad ∈ pads, pad.float32?.isSome := fun pad member => by
    rw [defaults pad member, Option.isSome_some]
  cases lengthened with
  | refl => exact vector
  | missing defaults =>
    exact .sequence fun pad member => numbers defaults pad (List.mem_of_mem_take member)
  | null defaults =>
    exact .sequence fun pad member => numbers defaults pad (List.mem_of_mem_take member)
  | @short items pads defaults =>
    cases vector with
    | sequence given =>
      refine .sequence fun item member => ?_
      rw [List.take_append] at member
      rcases List.mem_append.mp member with inside | behind
      · exact given item inside
      · exact numbers defaults item (List.mem_of_mem_take behind)
  | @long items enough others =>
    cases vector with
    | sequence given =>
      refine .sequence ?_
      rw [List.take_append_of_le_length enough]
      exact given

theorem Lengthened.vectorFault (lengthened : Lengthened default held longer) {field : String}
    {error : ConstructError} (fault : VectorFault field held error) :
    VectorFault field longer error := by
  cases lengthened with
  | refl => exact fault
  | missing _ => cases fault
  | null _ =>
    cases fault with
    | notSequence notNull _ => cases notNull
  | short _ | long _ _ =>
    generalize shape : some (Tree.sequence _) = held at fault
    cases fault with
    | notSequence _ notSequence =>
      cases shape
      cases notSequence
    | notNumber early numbers noNumber =>
      cases shape
      rw [List.append_assoc, List.cons_append]
      exact .notNumber early numbers noNumber

end Lengthening

namespace Transform

section Outcomes
variable {data : Tree} {fields : OrderedMap Tree} {error : ConstructError}

theorem firstFault_or_holds (fields : OrderedMap Tree) (parts : List Part) :
    (∀ part ∈ parts, HoldsVector (fields.get? part.field)) ∨
      ∃ error, FirstFault fields parts error := by
  induction parts with
  | nil => exact .inl (List.forall_mem_nil _)
  | cons part rest ih =>
    rcases holdsVector_or_fault part.field (fields.get? part.field) with vector | ⟨error, fault⟩
    · rcases ih with vectors | ⟨error, fault⟩
      · exact .inl (List.forall_mem_cons.mpr ⟨vector, vectors⟩)
      · exact .inr ⟨error, .later vector fault⟩
    · exact .inr ⟨error, .here fault⟩

theorem mem_all (part : Part) : part ∈ Part.all := by cases part <;> decide

theorem declares_or_faulty (data : Tree) : Declares data ∨ ∃ error, Faulty data error := by
  cases data with
  | null => exact .inl ⟨.inl rfl, fun _ => .missing⟩
  | scalar value => exact .inr ⟨_, .notMap rfl rfl⟩
  | sequence items => exact .inr ⟨_, .notMap rfl rfl⟩
  | map fields =>
    rcases firstFault_or_holds fields Part.all with vectors | ⟨error, fault⟩
    · exact .inl ⟨.inr rfl, fun part => vectors part (mem_all part)⟩
    · exact .inr ⟨error, .part fault⟩

theorem identity_eq : identity = ⟨⟨0, 0, 0⟩, ⟨0, 0, 0⟩, ⟨1, 1, 1⟩⟩ := by decide +kernel

theorem declared_of_blank
    (blank : ∀ part : Part, data.get? part.field = none ∨ data.get? part.field = some .null) :
    declared data = identity := by
  have default (part : Part) : part.numbers data = .splat part.default := by
    rw [Part.numbers]
    rcases blank part with missing | null
    · rw [missing]
      rfl
    · rw [null]
      rfl
  rw [declared, default, default, default]
  decide +kernel

theorem ofTurns_numbers (data : Tree) :
    ofTurns (Part.position.numbers data) (Part.rotation.numbers data) (Part.scale.numbers data) =
      declared data := by
  have turn : tau = 6.283185307179586 := by decide +kernel
  rw [declared, ofTurns, Vec3.scaleBy, turn]

theorem ofTree_declared (declares : Declares data) : ofTree data = .ok (declared data) := by
  cases data with
  | null => rw [declared_of_blank fun _ => .inl rfl, ofTree]
  | scalar value => rcases declares.form with form | form <;> cases form
  | sequence items => rcases declares.form with form | form <;> cases form
  | map fields =>
    have read (part : Part) :
        vectorField fields part.field part.default = .ok (part.numbers (.map fields)) :=
      vectorField_ok part.default (declares.parts part)
    change (do
      let position ← vectorField fields Part.position.field Part.position.default
      let rotation ← vectorField fields Part.rotation.field Part.rotation.default
      let scale ← vectorField fields Part.scale.field Part.scale.default
      return ofTurns position rotation scale) = _
    rw [read, read, read, ← ofTurns_numbers]
    rfl

theorem ofTree_faulty (faulty : Faulty data error) : ofTree data = .error error := by
  cases faulty with
  | notMap notNull notMap =>
    cases data with
    | null => cases notNull
    | scalar value => rfl
    | sequence items => rfl
    | map fields => cases notMap
  | @part fields error fault =>
    have fails (part : Part) {error : ConstructError}
        (fault : VectorFault part.field (fields.get? part.field) error) :
        vectorField fields part.field part.default = .error error := vectorField_error _ fault
    have read (part : Part) (vector : HoldsVector (fields.get? part.field)) :
        vectorField fields part.field part.default = .ok _ := vectorField_ok part.default vector
    change (do
      let position ← vectorField fields Part.position.field Part.position.default
      let rotation ← vectorField fields Part.rotation.field Part.rotation.default
      let scale ← vectorField fields Part.scale.field Part.scale.default
      return ofTurns position rotation scale) = _
    cases fault with
    | here fault =>
      rw [fails _ fault]
      rfl
    | later position fault =>
      rw [read _ position]
      cases fault with
      | here fault =>
        simp only [fails _ fault]
        rfl
      | later rotation fault =>
        cases fault with
        | here fault =>
          simp only [read _ rotation, fails _ fault]
          rfl
        | later scale fault => cases fault

end Outcomes

section Lengthening
variable {fields others : OrderedMap Tree}
  (lengthened : ∀ part : Part,
    Lengthened part.default (fields.get? part.field) (others.get? part.field))
include lengthened

theorem declares_lengthened (declares : Declares (.map fields)) : Declares (.map others) where
  form := .inr rfl
  parts part := (lengthened part).holdsVector (declares.parts part)

theorem declared_lengthened : declared (.map others) = declared (.map fields) := by
  have same (part : Part) : part.numbers (.map others) = part.numbers (.map fields) :=
    (lengthened part).vectorOf_eq
  rw [declared, same, same, same, ← declared]

theorem firstFault_lengthened {parts : List Part} {error : ConstructError}
    (fault : FirstFault fields parts error) : FirstFault others parts error := by
  induction fault with
  | here fault => exact .here ((lengthened _).vectorFault fault)
  | later vector _ ih => exact .later ((lengthened _).holdsVector vector) ih

theorem ofTree_lengthened : ofTree (.map others) = ofTree (.map fields) := by
  rcases declares_or_faulty (.map fields) with declares | ⟨error, faulty⟩
  · rw [ofTree_declared declares, ofTree_declared (declares_lengthened lengthened declares),
      declared_lengthened lengthened]
  · rw [ofTree_faulty faulty]
    cases faulty with
    | notMap _ notMap => cases notMap
    | part fault => exact ofTree_faulty (.part (firstFault_lengthened lengthened fault))

end Lengthening

/-- Data are read as the transform that they declare, or refused for their first fault, and there
is no third way. Where parts are filled up or go on too long, the outcome is the same. -/
theorem ofTree_reads (data : Tree) : Reads data (ofTree data) where
  accepted transform := by
    constructor
    · intro read
      rcases declares_or_faulty data with declares | ⟨error, faulty⟩
      · rw [ofTree_declared declares] at read
        cases read
        exact ⟨declares, rfl⟩
      · rw [ofTree_faulty faulty] at read
        cases read
    · rintro ⟨declares, rfl⟩
      exact ofTree_declared declares
  refused error := by
    constructor
    · intro failed
      rcases declares_or_faulty data with declares | ⟨fault, faulty⟩
      · rw [ofTree_declared declares] at failed
        cases failed
      · rw [ofTree_faulty faulty] at failed
        cases failed
        exact faulty
    · exact ofTree_faulty
  decided := declares_or_faulty data
  identity form blank := by
    have holds (part : Part) : HoldsVector (data.get? part.field) := by
      rcases blank part with missing | null
      · exact missing ▸ .missing
      · exact null ▸ .null
    rw [ofTree_declared ⟨form, holds⟩, declared_of_blank blank]
    exact ⟨rfl, identity_eq⟩
  lengthened other isMap otherIsMap lengthened := by
    cases data with
    | null | scalar _ | sequence _ => cases isMap
    | map fields =>
      cases other with
      | null | scalar _ | sequence _ => cases otherIsMap
      | map others => exact ofTree_lengthened lengthened

end Transform

namespace Sample

def number (value : Float) : Tree := .scalar (.number (.ofFloat value))

/-- A short position, a quarter turn about the first axis, and a scale that goes on too long. -/
def hinge : Tree := .map <| .ofList
  [("position", .sequence [number 1.5, .scalar (.string "-2")]),
    ("rotation", .sequence [number 0.25]),
    ("scale", .sequence [number 2.0, number 3.0, number 4.0, .null])]

end Sample

namespace Transform

theorem hinge_reads : ofTree Sample.hinge =
    .ok ⟨⟨1.5, -2, 0⟩, ⟨1.5707964, 0, 0⟩, ⟨2, 3, 4⟩⟩ := by
  refine ((ofTree_reads Sample.hinge).accepted _).mpr ⟨⟨.inr rfl, ?_⟩, by decide +kernel⟩
  rintro (_ | _ | _) <;> exact .sequence (by decide +kernel)

end Transform
end SceneGraph
